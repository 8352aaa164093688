import Courier.BanList
import Courier.IpAddress
import Courier.NetworkError
import Mathlib.Data.List.Induction
import Mathlib.Data.List.TakeWhile

/-!
# Courier — what reads as an address

The last colon of a text parts host and port. The host may stand in brackets, which are taken off
again, and the port is a numeral, which may have a plus sign and any number of leading zeros. This
grammar is stated here without the reader (`Spells`), and so is the order in which the reader looks
for faults (`Reads`).

Brackets are written around a host that holds a colon, and read around any host. So a host without a
colon that stands in brackets of its own loses them on its way through the written form. Such a host
cannot come from one pair of brackets in a text that was read, but from two.

Main results:

* `parse_eq_iff_reads` — **reading accepts its grammar**, and names the first fault of all other
  texts;
* `text_reads_back` — which addresses come back from their written form, and what comes of the
  others;
* `stable_unless_twice_enclosed` — which texts are read as an address that comes back;
* `not_always_stable` — which are not all.
-/

namespace Courier.Address

-- ---------------------------------------------------------------------------
-- Hosts
-- ---------------------------------------------------------------------------

/-- A host in a pair of brackets. -/
def enclosed (host : List Char) : List Char := '[' :: (host ++ [']'])

def IsEnclosed (cs : List Char) : Prop := ∃ host, cs = enclosed host

/-- The host that is meant by what stands before the last colon. -/
inductive HostMeant : List Char → List Char → Prop where
  | enclosed (host : List Char) : HostMeant (enclosed host) host
  | plain {host : List Char} (h : ¬IsEnclosed host) : HostMeant host host

variable {cs front behind host : List Char} {s : String} {a : Address}

/-- The brackets that `Display` puts around a host are taken off again. -/
theorem stripBrackets_enclosed (host : List Char) : stripBrackets (enclosed host) = host := by
  have hlast : (host ++ [']']).getLast? = some ']' := List.getLast?_concat
  show (if (host ++ [']']).getLast? = some ']' then (host ++ [']']).dropLast else _) = host
  rw [if_pos hlast, List.dropLast_concat]

/-- A host without brackets around it is left as it is. -/
theorem stripBrackets_of_not_isEnclosed (h : ¬IsEnclosed host) : stripBrackets host = host := by
  unfold stripBrackets
  split
  next inner =>
    split
    next hlast =>
      obtain ⟨inner, rfl⟩ := List.getLast?_eq_some_iff.mp hlast
      exact absurd ⟨inner, rfl⟩ h
    next => rfl
  next => rfl

/-- The rule for hosts says what `from_str` makes of the front of a text. -/
theorem hostMeant_iff : HostMeant front host ↔ stripBrackets front = host := by
  constructor
  · rintro (_ | h)
    · exact stripBrackets_enclosed host
    · exact stripBrackets_of_not_isEnclosed h
  · rintro rfl
    by_cases h : IsEnclosed front
    · obtain ⟨host, rfl⟩ := h
      rw [stripBrackets_enclosed]
      exact .enclosed host
    · rw [stripBrackets_of_not_isEnclosed h]
      exact .plain h

/-- Brackets bring no other characters with them. -/
theorem mem_enclosed {c : Char} (hopen : c ≠ '[') (hclose : c ≠ ']') :
    c ∈ enclosed host ↔ c ∈ host := by
  simp [enclosed, hopen, hclose]

-- ---------------------------------------------------------------------------
-- Ports
-- ---------------------------------------------------------------------------

/-- Decimal digits, at least one, and the number that they denote. -/
inductive Numeral : List Char → Nat → Prop where
  | digit (d : Fin 10) : Numeral [d.val.digitChar] d
  | append {cs : List Char} {n : Nat} (h : Numeral cs n) (d : Fin 10) :
    Numeral (cs ++ [d.val.digitChar]) (10 * n + d)

/-- A numeral, with or without a plus sign before it. -/
inductive PortText : List Char → Nat → Prop where
  | plain {cs : List Char} {n : Nat} (h : Numeral cs n) : PortText cs n
  | signed {cs : List Char} {n : Nat} (h : Numeral cs n) : PortText ('+' :: cs) n

theorem isDigit_digitChar : ∀ d : Fin 10, isDigit d.val.digitChar = true := by decide

theorem toNat_digitChar : ∀ d : Fin 10, d.val.digitChar.toNat - 48 = d.val := by decide

theorem exists_digitChar {c : Char} (h : isDigit c = true) : ∃ d : Fin 10, d.val.digitChar = c := by
  obtain ⟨hlow, hhigh⟩ : 48 ≤ c.toNat ∧ c.toNat ≤ 57 := by
    simpa [isDigit, Char.le_def, UInt32.le_iff_toNat_le] using h
  have hvalue : c.toNat - 48 < 10 := by omega
  refine ⟨⟨c.toNat - 48, hvalue⟩, Char.toNat_inj.mp ?_⟩
  rw [Nat.toNat_digitChar_of_lt_ten hvalue]
  omega

/-- A further digit counts after ten times what stands before it. -/
theorem digitsValue_append (cs : List Char) (c : Char) :
    digitsValue (cs ++ [c]) = 10 * digitsValue cs + (c.toNat - 48) := by
  rw [digitsValue, List.foldl_append]
  rfl

/-- Numerals are the texts of digits, and stand for what their digits add up to. -/
theorem numeral_iff {n : Nat} :
    Numeral cs n ↔ cs ≠ [] ∧ cs.all isDigit = true ∧ digitsValue cs = n := by
  constructor
  · intro h
    induction h with
    | digit d =>
      refine ⟨List.cons_ne_nil _ _, by simp [isDigit_digitChar d], ?_⟩
      rw [← List.nil_append [_], digitsValue_append, toNat_digitChar]
      exact Nat.zero_add _
    | append _ d ih =>
      obtain ⟨-, hall, hvalue⟩ := ih
      refine ⟨List.append_ne_nil_of_right_ne_nil _ (List.cons_ne_nil _ _), ?_, ?_⟩
      · simp [List.all_append, hall, isDigit_digitChar d]
      · rw [digitsValue_append, toNat_digitChar, hvalue]
  · rintro ⟨hne, hall, rfl⟩
    -- the last digit counts once, and what stands before it ten times
    induction cs using List.reverseRecOn with
    | nil => exact absurd rfl hne
    | append_singleton cs c ih =>
      rw [List.all_append, Bool.and_eq_true] at hall
      obtain ⟨d, rfl⟩ := exists_digitChar (c := c) (by simpa using hall.2)
      rw [digitsValue_append, toNat_digitChar]
      by_cases hcs : cs = []
      · subst hcs
        simpa [digitsValue] using Numeral.digit d
      · exact (ih hcs hall.1).append d

/-- The digits of a port, without the sign that it may have. -/
def unsigned (cs : List Char) : List Char :=
  match cs with
  | '+' :: ds => ds
  | _ => cs

/-- A text without a plus sign is read as it stands. -/
theorem unsigned_of_ne (h : ∀ ds, cs ≠ '+' :: ds) : unsigned cs = cs := by
  unfold unsigned
  split
  next ds => exact absurd rfl (h ds)
  next => rfl

/-- A port is read if it is made of digits and fits into 16 bits. -/
theorem port?_eq (cs : List Char) :
    port? cs =
      if unsigned cs ≠ [] ∧ (unsigned cs).all isDigit = true ∧
          digitsValue (unsigned cs) < UInt16.size then
        some (UInt16.ofNat (digitsValue (unsigned cs)))
      else none := rfl

/-- A port text is a numeral, perhaps behind a plus sign. -/
theorem portText_iff {n : Nat} : PortText cs n ↔ Numeral (unsigned cs) n := by
  constructor
  · rintro (h | h)
    · rw [unsigned_of_ne]
      · exact h
      · rintro ds rfl
        simp [numeral_iff, isDigit] at h
    · exact h
  · intro h
    by_cases hsign : ∃ ds, cs = '+' :: ds
    · obtain ⟨ds, rfl⟩ := hsign
      exact .signed h
    · rw [unsigned_of_ne (not_exists.mp hsign)] at h
      exact .plain h

/-- The port that `from_str` reads is the one that the text stands for. -/
theorem port?_eq_some_iff {port : UInt16} : port? cs = some port ↔ PortText cs port.toNat := by
  rw [portText_iff, numeral_iff, port?_eq]
  constructor
  · intro h
    split at h
    next hport =>
      cases h
      exact ⟨hport.1, hport.2.1, (UInt16.toNat_ofNat_of_lt' hport.2.2).symm⟩
    next => cases h
  · rintro ⟨hne, hall, hvalue⟩
    rw [if_pos ⟨hne, hall, hvalue ▸ port.toNat_lt_size⟩, hvalue, UInt16.ofNat_toNat]

/-- Where no port is read, every number that the text denotes is too large for one. -/
theorem port?_eq_none_iff : port? cs = none ↔ ∀ n, PortText cs n → 65535 < n := by
  constructor
  · intro h n hn
    by_contra hle
    have hport : (UInt16.ofNat n).toNat = n := UInt16.toNat_ofNat_of_lt' (by
      show n < 65536
      omega)
    rw [← hport, ← port?_eq_some_iff, h] at hn
    cases hn
  · intro h
    refine Option.eq_none_iff_forall_ne_some.mpr fun port hport => ?_
    have hlarge := h _ (port?_eq_some_iff.mp hport)
    have hsmall : port.toNat < 65536 := port.toNat_lt_size
    omega

-- ---------------------------------------------------------------------------
-- The last colon
-- ---------------------------------------------------------------------------

/-- The last colon of a text stands between these two parts. -/
structure Parts (cs front behind : List Char) : Prop where
  text : cs = front ++ ':' :: behind
  last : ':' ∉ behind

/-- A text with a colon falls into what stands before its last colon and what stands behind. -/
theorem exists_parts (h : ':' ∈ cs) : ∃ front behind, Parts cs front behind := by
  obtain ⟨behind, front, hreverse, hlast⟩ := List.eq_append_cons_of_mem (List.mem_reverse.mpr h)
  refine ⟨front.reverse, behind.reverse, ?_, fun hmem => hlast (List.mem_reverse.mp hmem)⟩
  rw [← cs.reverse_reverse, hreverse]
  simp

/-- These are the parts that `from_str` looks at. -/
theorem splitLastColon?_of_parts (h : Parts cs front behind) :
    splitLastColon? cs = some (front, behind) := by
  obtain ⟨rfl, hlast⟩ := h
  have hbehind : ∀ c ∈ behind.reverse, decide (c ≠ ':') = true := by
    intro c hc
    exact decide_eq_true fun he => hlast (he ▸ List.mem_reverse.mp hc)
  have hreverse : (front ++ ':' :: behind).reverse = behind.reverse ++ ':' :: front.reverse := by
    simp
  rw [splitLastColon?, hreverse, List.dropWhile_append_of_pos hbehind,
    List.takeWhile_append_of_pos hbehind]
  simp

/-- A text without a colon has no such parts. -/
theorem splitLastColon?_of_not_mem (h : ':' ∉ cs) : splitLastColon? cs = none := by
  have hall : ∀ c ∈ cs.reverse, decide (c ≠ ':') = true := by
    intro c hc
    exact decide_eq_true fun he => h (he ▸ List.mem_reverse.mp hc)
  rw [splitLastColon?, List.dropWhile_eq_nil_iff.mpr hall]

-- ---------------------------------------------------------------------------
-- The grammar
-- ---------------------------------------------------------------------------

/-- A text is a written form of an address. -/
inductive Spells (s : String) (a : Address) : Prop where
  | intro {front behind : List Char} (parts : Parts s.toList front behind)
    (meant : HostMeant front a.host.toList) (named : a.host ≠ "")
    (port : PortText behind a.port.toNat)

/-- What comes of reading a text. What is wrong with it is looked for in this order: a colon, a host,
a port that is not too large. -/
inductive Reads (s : String) : Except NetworkError Address → Prop where
  | address {a : Address} (h : Spells s a) : Reads s (.ok a)
  | noColon (h : ':' ∉ s.toList) : Reads s (.error (.invalidAddress ("missing port: " ++ s)))
  | noHost {front behind : List Char} (parts : Parts s.toList front behind)
    (meant : HostMeant front []) : Reads s (.error (.invalidAddress ("missing host: " ++ s)))
  | noPort {front behind host : List Char} (parts : Parts s.toList front behind)
    (meant : HostMeant front host) (named : host ≠ [])
    (port : ∀ n, PortText behind n → 65535 < n) :
    Reads s (.error (.invalidAddress ("invalid port: " ++ String.ofList behind)))

/-- `from_str` looks at the host first, and at the port then. -/
theorem parse_of_parts (h : Parts s.toList front behind) (hhost : HostMeant front host) :
    parse s =
      if host = [] then .error (.missingHost s)
      else
        (port? behind).elim (.error (.invalidPort (String.ofList behind)))
          fun port => .ok ⟨String.ofList host, port⟩ := by
  rw [parse, splitLastColon?_of_parts h, ← hostMeant_iff.mp hhost]
  dsimp only
  cases port? behind <;> rfl

/-- A text that spells an address by the rules is read as this address. -/
theorem parse_of_spells (h : Spells s a) : parse s = .ok a := by
  obtain ⟨parts, hhost, hnamed, hport⟩ := h
  have hne : a.host.toList ≠ [] := fun hnil => hnamed (String.toList_eq_nil_iff.mp hnil)
  rw [parse_of_parts parts hhost, if_neg hne, port?_eq_some_iff.mpr hport, Option.elim_some,
    String.ofList_toList]

/-- What the rules say of a text is what `from_str` answers. -/
theorem parse_of_reads {r : Except NetworkError Address} (h : Reads s r) :
    (parse s).mapError NetworkError.ofAddressFault = r := by
  cases h with
  | address h =>
    rw [parse_of_spells h]
    rfl
  | noColon h =>
    rw [parse, splitLastColon?_of_not_mem h]
    rfl
  | noHost parts hhost =>
    rw [parse_of_parts parts hhost, if_pos rfl]
    rfl
  | noPort parts hhost hnamed hport =>
    rw [parse_of_parts parts hhost, if_neg hnamed, port?_eq_none_iff.mpr hport]
    rfl

/-- Something comes of every text. -/
theorem exists_reads (s : String) : ∃ r, Reads s r := by
  by_cases hcolon : ':' ∈ s.toList
  · obtain ⟨front, behind, parts⟩ := exists_parts hcolon
    have hhost : HostMeant front (stripBrackets front) := hostMeant_iff.mpr rfl
    by_cases hnamed : stripBrackets front = []
    · exact ⟨_, .noHost parts (hnamed ▸ hhost)⟩
    · cases hport : port? behind with
      | none => exact ⟨_, .noPort parts hhost hnamed (port?_eq_none_iff.mp hport)⟩
      | some port =>
        refine ⟨.ok ⟨String.ofList (stripBrackets front), port⟩,
          .address (.intro parts ?_ ?_ (port?_eq_some_iff.mp hport))⟩
        · rwa [String.toList_ofList]
        · simpa using hnamed
  · exact ⟨_, .noColon hcolon⟩

/-- `from_str` accepts just the texts that spell an address. -/
theorem parse_eq_ok_iff : parse s = .ok a ↔ Spells s a := by
  refine ⟨fun h => ?_, parse_of_spells⟩
  obtain ⟨r, hr⟩ := exists_reads s
  have hread := parse_of_reads hr
  rw [h] at hread
  subst hread
  cases hr with
  | address hspells => exact hspells

/-- **Reading accepts its grammar**, and refuses every other text for the first fault in it, however
long the text is and however many zeros its port begins with. -/
theorem parse_eq_iff_reads (s : String) (r : Except NetworkError Address) :
    (parse s).mapError NetworkError.ofAddressFault = r ↔ Reads s r := by
  refine ⟨?_, parse_of_reads⟩
  rintro rfl
  obtain ⟨r, hr⟩ := exists_reads s
  rwa [parse_of_reads hr]

-- ---------------------------------------------------------------------------
-- Written forms
-- ---------------------------------------------------------------------------

/-- What is written of a host. -/
def written (host : List Char) : List Char := if ':' ∈ host then enclosed host else host

/-- The digits of a number are a numeral for it. -/
theorem numeral_toDigits (n : Nat) : Numeral (Nat.toDigits 10 n) n := by
  have hall : ∀ c ∈ Nat.toDigits 10 n, isDigit c = true := by
    intro c hc
    have hdigit : c.isDigit = true := Nat.isDigit_of_mem_toDigits (by decide) (by decide) hc
    simpa [isDigit, Char.isDigit, Char.le_def] using hdigit
  have hvalue : Nat.ofDigitChars 10 (Nat.toDigits 10 n) 0 = n :=
    Nat.ofDigitChars_toDigits (by decide) (by decide)
  exact numeral_iff.mpr ⟨Nat.toDigits_ne_nil, List.all_eq_true.mpr hall, hvalue⟩

theorem colon_not_mem_portDigits (port : UInt16) : ':' ∉ portDigits port := by
  obtain ⟨-, hall, -⟩ := numeral_iff.mp (numeral_toDigits port.toNat)
  intro hmem
  exact absurd (List.all_eq_true.mp hall _ hmem) (by decide)

/-- What `Display` writes has the host in front of its last colon and the port behind. -/
theorem parts_text (a : Address) :
    Parts a.text.toList (written a.host.toList) (portDigits a.port) where
  text := by
    rw [text, String.toList_ofList, chars, written]
    split <;> simp [enclosed]
  last := colon_not_mem_portDigits a.port

/-- The written form of an address is read as what is meant by the form of its host. -/
theorem parse_text (h : HostMeant (written a.host.toList) host) :
    parse a.text =
      if host = [] then .error (.missingHost a.text) else .ok ⟨String.ofList host, a.port⟩ := by
  have hport : port? (portDigits a.port) = some a.port :=
    port?_eq_some_iff.mpr (.plain (numeral_toDigits _))
  rw [parse_of_parts (parts_text a) h, hport, Option.elim_some]

/-- The written host stands for the host, if brackets are put around it or it has none. -/
theorem hostMeant_written (h : ':' ∈ host ∨ ¬IsEnclosed host) : HostMeant (written host) host := by
  by_cases hcolon : ':' ∈ host
  · rw [written, if_pos hcolon]
    exact .enclosed host
  · rw [written, if_neg hcolon]
    exact .plain (h.resolve_left hcolon)

/-- A host without a colon loses the brackets that it stands in. -/
theorem hostMeant_written_enclosed (h : ':' ∉ enclosed host) :
    HostMeant (written (enclosed host)) host := by
  rw [written, if_neg h]
  exact .enclosed host

/-- No host equals itself with brackets around it. -/
theorem enclosed_ne_self (host : List Char) : enclosed host ≠ host := by
  intro h
  have hlength := congrArg List.length h
  rw [enclosed, List.length_cons, List.length_append] at hlength
  omega

/-- Which addresses are read back from what is written for them. -/
theorem parse_text_self_iff (a : Address) :
    parse a.text = .ok a ↔
      a.host ≠ "" ∧ (':' ∈ a.host.toList ∨ ¬IsEnclosed a.host.toList) := by
  constructor
  · intro h
    obtain ⟨-, -, hnamed, -⟩ := parse_eq_ok_iff.mp h
    refine ⟨hnamed, or_iff_not_imp_left.mpr fun hcolon => ?_⟩
    rintro ⟨inner, hinner⟩
    rw [hinner] at hcolon
    have hread := parse_text (a := a) (hinner ▸ hostMeant_written_enclosed hcolon)
    rw [h] at hread
    split at hread
    next => cases hread
    next =>
      have hhost : a = ⟨String.ofList inner, a.port⟩ := Except.ok.inj hread
      rw [hhost, String.toList_ofList] at hinner
      exact enclosed_ne_self inner hinner.symm
  · rintro ⟨hnamed, hhost⟩
    have hne : a.host.toList ≠ [] := fun hnil => hnamed (String.toList_eq_nil_iff.mp hnil)
    rw [parse_text (hostMeant_written hhost), if_neg hne, String.ofList_toList]

end Courier.Address

namespace Courier.IpAddress

-- ---------------------------------------------------------------------------
-- Numeric hosts
-- ---------------------------------------------------------------------------

theorem dotted_cons (b : UInt8) (bs : Bytes) :
    (dotted (b :: bs)).toList =
      Nat.toDigits 10 b.toNat ++ if bs = [] then [] else '.' :: (dotted bs).toList := by
  cases bs with
  | nil => simp [dotted]
  | cons b' bs => simp [dotted]

/-- A short address is written in digits and points. -/
theorem mem_dotted {bs : Bytes} {c : Char} (h : c ∈ (dotted bs).toList) :
    c.isDigit = true ∨ c = '.' := by
  induction bs with
  | nil => simp [dotted] at h
  | cons b bs ih =>
    rw [dotted_cons, List.mem_append] at h
    rcases h with h | h
    · exact .inl (Nat.isDigit_of_mem_toDigits (by decide) (by decide) h)
    · split at h
      · cases h
      · rcases List.mem_cons.mp h with rfl | h
        · exact .inr rfl
        · exact ih h

/-- Two groups are joined by a colon. -/
theorem colon_mem_joined {gs : List Nat} (h : 2 ≤ gs.length) : ':' ∈ (joined gs).toList := by
  rcases gs with _ | ⟨g, _ | ⟨g', gs⟩⟩
  · exact absurd h (by decide)
  · exact absurd h (Nat.not_le.mpr Nat.one_lt_two)
  · simp [joined]

theorem length_groups (bs : Bytes) : (groups bs).length = bs.length / 2 := by
  fun_induction groups bs with
  | case1 h l rest ih =>
    rw [List.length_cons, ih, List.length_cons, List.length_cons]
    omega
  | case2 bs hshort =>
    rcases bs with _ | ⟨h, _ | ⟨l, rest⟩⟩
    · rfl
    · exact (Nat.div_eq_of_lt Nat.one_lt_two).symm
    · exact absurd rfl (hshort h l rest)

/-- An address of two groups or more is written with a colon, also if zeros are left out. -/
theorem colon_mem_groupText {gs : List Nat} (h : 2 ≤ gs.length) : ':' ∈ (groupText gs).toList := by
  unfold groupText
  dsimp only
  split
  · simp
  · exact colon_mem_joined h

/-- So the text of every such address has a colon, and its host is written in brackets. -/
theorem colon_mem_v6 (bs : Block 16) : ':' ∈ (text (.v6 bs)).toList := by
  rw [text]
  split
  · simp
  · refine colon_mem_groupText ?_
    rw [length_groups, bs.length_bytes]
    decide

/-- A numeric host is read back from what is written of it: a long one has colons, and a short one
no brackets. -/
theorem reads_back (ip : IpAddress) :
    ip.text ≠ "" ∧ (':' ∈ ip.text.toList ∨ ¬Address.IsEnclosed ip.text.toList) := by
  cases ip with
  | v4 bs =>
    obtain ⟨bytes, hbytes⟩ := bs
    obtain ⟨b, rest, rfl⟩ : ∃ b rest, bytes = b :: rest :=
      List.exists_cons_of_length_eq_add_one hbytes
    refine ⟨fun hnil => ?_, .inr fun ⟨inner, hinner⟩ => ?_⟩
    · have hempty := congrArg String.toList hnil
      rw [text, dotted_cons] at hempty
      exact Nat.toDigits_ne_nil (List.append_eq_nil_iff.mp hempty).1
    · have hopen : '[' ∈ (dotted (b :: rest)).toList := hinner ▸ List.mem_cons_self ..
      rcases mem_dotted hopen with hdigit | hpoint
      · exact absurd hdigit (by decide)
      · exact absurd hpoint (by decide)
  | v6 bs =>
    have hcolon := colon_mem_v6 bs
    refine ⟨fun hnil => ?_, .inl hcolon⟩
    rw [hnil] at hcolon
    cases hcolon

end Courier.IpAddress

namespace Courier.Address

variable {s : String} {a : Address}

/-- **An address comes back from its written form** just if its host is not empty, and has a colon or
stands in no brackets. An empty host is missed, and so is one that consists of a pair of brackets;
any other host in brackets that has no colon comes back without them. Numeric hosts always come
back. -/
theorem text_reads_back :
    (∀ (host : String) (port : UInt16),
      let a : Address := ⟨host, port⟩
      (parse a.text = .ok a ↔
        host ≠ "" ∧ (':' ∈ host.toList ∨ ¬IsEnclosed host.toList)) ∧
      (host = "" ∨ host = "[]" →
        (parse a.text).mapError NetworkError.ofAddressFault =
          .error (.invalidAddress ("missing host: " ++ a.text))) ∧
      (∀ inner, host.toList = enclosed inner → ':' ∉ host.toList → inner ≠ [] →
        parse a.text = .ok ⟨String.ofList inner, port⟩)) ∧
    (∀ (ip : IpAddress) (port : UInt16), parse (ip.address port).text = .ok (ip.address port)) := by
  refine ⟨fun host port => ?_, fun ip port => (parse_text_self_iff _).mpr ip.reads_back⟩
  intro a
  refine ⟨parse_text_self_iff a, ?_, ?_⟩
  · intro hhost
    have hmeant : HostMeant (written host.toList) [] := by
      rcases hhost with rfl | rfl
      · exact .plain fun ⟨inner, hinner⟩ => List.cons_ne_nil _ _ hinner.symm
      · have hpair : "[]".toList = enclosed [] := rfl
        exact hpair ▸ hostMeant_written_enclosed (by decide)
    rw [parse_text hmeant, if_pos rfl]
    rfl
  · intro inner hinner hcolon hne
    rw [hinner] at hcolon
    have hmeant : HostMeant (written a.host.toList) inner :=
      hinner ▸ hostMeant_written_enclosed hcolon
    rw [parse_text hmeant, if_neg hne]

/-- A host with colons keeps its brackets and one without loses them, a pair of brackets is no host,
and the long address of this machine comes back. -/
theorem text_reads_back_sample :
    parse (⟨"[::1]", 8000⟩ : Address).text = .ok ⟨"[::1]", 8000⟩ ∧
      parse (⟨"[a]", 8000⟩ : Address).text = .ok ⟨"a", 8000⟩ ∧
      (parse (⟨"[]", 8000⟩ : Address).text).mapError NetworkError.ofAddressFault =
        .error (.invalidAddress "missing host: []:8000") ∧
      parse ((IpAddress.v6 (.ofNat 16 (1 <<< 120))).address 8000).text = .ok ⟨"::1", 8000⟩ := by
  obtain ⟨hosts, numeric⟩ := text_reads_back
  refine ⟨(hosts "[::1]" 8000).1.mpr ⟨by decide, .inl (by decide)⟩,
    (hosts "[a]" 8000).2.2 ['a'] rfl (by decide) (by decide),
    (hosts "[]" 8000).2.1 (.inr rfl), numeric _ 8000⟩

-- ---------------------------------------------------------------------------
-- Addresses that were read
-- ---------------------------------------------------------------------------

/-- A text falls into parts in one way only. -/
theorem Parts.unique {cs front behind front' behind' : List Char} (h : Parts cs front behind)
    (h' : Parts cs front' behind') : front = front' ∧ behind = behind' := by
  have hsplit := (splitLastColon?_of_parts h).symm.trans (splitLastColon?_of_parts h')
  cases hsplit
  exact ⟨rfl, rfl⟩

/-- A text has a host without a colon in two pairs of brackets. -/
def IsTwiceEnclosed (s : String) : Prop :=
  ∃ inner behind, Parts s.toList (enclosed (enclosed inner)) behind ∧ ':' ∉ inner

/-- The host that was read stands in brackets if it was written in two pairs of them. -/
theorem Spells.isTwiceEnclosed_iff (h : Spells s a) :
    IsTwiceEnclosed s ↔ ':' ∉ a.host.toList ∧ IsEnclosed a.host.toList := by
  obtain ⟨parts, hmeant, -, -⟩ := h
  constructor
  · rintro ⟨inner, behind, parts', hcolon⟩
    obtain ⟨rfl, rfl⟩ := parts.unique parts'
    have hhost : a.host.toList = enclosed inner :=
      (hostMeant_iff.mp hmeant).symm.trans (stripBrackets_enclosed _)
    rw [hhost, mem_enclosed (by decide) (by decide)]
    exact ⟨hcolon, inner, rfl⟩
  · rintro ⟨hcolon, inner, hinner⟩
    rw [hinner] at hmeant hcolon
    rw [mem_enclosed (by decide) (by decide)] at hcolon
    cases hmeant with
    | enclosed => exact ⟨inner, _, parts, hcolon⟩
    | plain h => exact absurd ⟨inner, rfl⟩ h

/-- **An address that was read comes back from its written form**, unless the text had its host in two
pairs of brackets and without a colon. -/
theorem stable_unless_twice_enclosed (h : parse s = .ok a) :
    parse a.text = .ok a ↔ ¬IsTwiceEnclosed s := by
  have hspells := parse_eq_ok_iff.mp h
  have hnamed : a.host ≠ "" := by
    obtain ⟨-, -, hnamed, -⟩ := hspells
    exact hnamed
  rw [parse_text_self_iff, hspells.isTwiceEnclosed_iff, and_iff_right hnamed, not_and_or, not_not]

/-- A host with colons comes back also from two pairs of brackets, and so does a port with a sign and
zeros. -/
theorem stable_unless_twice_enclosed_sample :
    parse "[[::1]]:+0080" = .ok ⟨"[::1]", 80⟩ ∧
      parse (⟨"[::1]", 80⟩ : Address).text = .ok ⟨"[::1]", 80⟩ := by
  have hread : parse "[[::1]]:+0080" = .ok ⟨"[::1]", 80⟩ := rfl
  refine ⟨hread, (stable_unless_twice_enclosed hread).mpr ?_⟩
  rw [(parse_eq_ok_iff.mp hread).isTwiceEnclosed_iff]
  rintro ⟨hcolon, -⟩
  exact hcolon (by decide)

/-- Not every address that was read comes back: one pair of brackets is lost on the way in and the
other one on the way back, and a ban on the one address does not hold for the other. -/
theorem not_always_stable :
    parse "[[a]]:1" = .ok ⟨"[a]", 1⟩ ∧ (⟨"[a]", 1⟩ : Address).text = "[a]:1" ∧
      parse "[a]:1" = .ok ⟨"a", 1⟩ ∧ (BanList.empty.ban ⟨"[a]", 1⟩).isBanned ⟨"a", 1⟩ = false ∧
      ¬ ∀ (s : String) (a : Address), parse s = .ok a → parse a.text = .ok a := by
  have hread : parse "[[a]]:1" = .ok ⟨"[a]", 1⟩ := rfl
  have hagain : parse (⟨"[a]", 1⟩ : Address).text = .ok ⟨"a", 1⟩ := rfl
  refine ⟨hread, rfl, hagain, by decide +kernel, fun hstable => ?_⟩
  have hsame := hagain.symm.trans (hstable _ _ hread)
  have hhost : "a" = "[a]" := congrArg host (Except.ok.inj hsame)
  exact absurd hhost (by decide)

end Courier.Address
