/-!
# Courier — failures of reads and writes

The kinds of failure that an operating system reports, with their usual wording. What a failure
means for a connection is `NetworkError.ofIo`.
-/

namespace Courier

inductive IoKind where
  | addrInUse | addrNotAvailable | alreadyExists | argumentListTooLong | brokenPipe
  | connectionAborted | connectionRefused | connectionReset | crossesDevices | deadlock
  | directoryNotEmpty | executableFileBusy | fileTooLarge | filesystemLoop | hostUnreachable
  | inProgress | interrupted | invalidData | invalidFilename | invalidInput | isADirectory
  | networkDown | networkUnreachable | notADirectory | notConnected | notFound | notSeekable
  | other | outOfMemory | permissionDenied | quotaExceeded | readOnlyFilesystem | resourceBusy
  | staleNetworkFileHandle | storageFull | timedOut | tooManyLinks | uncategorized
  | unexpectedEof | unsupported | wouldBlock | writeZero
deriving DecidableEq, Repr, Inhabited

namespace IoKind

/-- The wording of a failure of which nothing but its kind is known. -/
def text : IoKind → String
  | addrInUse => "address in use"
  | addrNotAvailable => "address not available"
  | alreadyExists => "entity already exists"
  | argumentListTooLong => "argument list too long"
  | brokenPipe => "broken pipe"
  | connectionAborted => "connection aborted"
  | connectionRefused => "connection refused"
  | connectionReset => "connection reset"
  | crossesDevices => "cross-device link or rename"
  | deadlock => "deadlock"
  | directoryNotEmpty => "directory not empty"
  | executableFileBusy => "executable file busy"
  | fileTooLarge => "file too large"
  | filesystemLoop => "filesystem loop or indirection limit (e.g. symlink loop)"
  | hostUnreachable => "host unreachable"
  | inProgress => "in progress"
  | interrupted => "operation interrupted"
  | invalidData => "invalid data"
  | invalidFilename => "invalid filename"
  | invalidInput => "invalid input parameter"
  | isADirectory => "is a directory"
  | networkDown => "network down"
  | networkUnreachable => "network unreachable"
  | notADirectory => "not a directory"
  | notConnected => "not connected"
  | notFound => "entity not found"
  | notSeekable => "seek on unseekable file"
  | other => "other error"
  | outOfMemory => "out of memory"
  | permissionDenied => "permission denied"
  | quotaExceeded => "quota exceeded"
  | readOnlyFilesystem => "read-only filesystem or storage medium"
  | resourceBusy => "resource busy"
  | staleNetworkFileHandle => "stale network file handle"
  | storageFull => "no storage space"
  | timedOut => "timed out"
  | tooManyLinks => "too many links"
  | uncategorized => "uncategorized error"
  | unexpectedEof => "unexpected end of file"
  | unsupported => "unsupported"
  | wouldBlock => "operation would block"
  | writeZero => "write zero"

/-- The kinds that have a name. -/
def named : List (String × IoKind) := [
  ("AddrInUse", addrInUse), ("AddrNotAvailable", addrNotAvailable),
  ("AlreadyExists", alreadyExists), ("ArgumentListTooLong", argumentListTooLong),
  ("BrokenPipe", brokenPipe), ("ConnectionAborted", connectionAborted),
  ("ConnectionRefused", connectionRefused), ("ConnectionReset", connectionReset),
  ("CrossesDevices", crossesDevices), ("Deadlock", deadlock),
  ("DirectoryNotEmpty", directoryNotEmpty), ("ExecutableFileBusy", executableFileBusy),
  ("FileTooLarge", fileTooLarge), ("FilesystemLoop", filesystemLoop),
  ("HostUnreachable", hostUnreachable), ("InProgress", inProgress), ("Interrupted", interrupted),
  ("InvalidData", invalidData), ("InvalidFilename", invalidFilename),
  ("InvalidInput", invalidInput), ("IsADirectory", isADirectory), ("NetworkDown", networkDown),
  ("NetworkUnreachable", networkUnreachable), ("NotADirectory", notADirectory),
  ("NotConnected", notConnected), ("NotFound", notFound), ("NotSeekable", notSeekable),
  ("Other", other), ("OutOfMemory", outOfMemory), ("PermissionDenied", permissionDenied),
  ("QuotaExceeded", quotaExceeded), ("ReadOnlyFilesystem", readOnlyFilesystem),
  ("ResourceBusy", resourceBusy), ("StaleNetworkFileHandle", staleNetworkFileHandle),
  ("StorageFull", storageFull), ("TimedOut", timedOut), ("TooManyLinks", tooManyLinks),
  ("UnexpectedEof", unexpectedEof), ("Unsupported", unsupported), ("WouldBlock", wouldBlock),
  ("WriteZero", writeZero)]

/-- The kind of a name; names that are not known are those of other failures. -/
def ofName (name : String) : IoKind := (named.lookup name).getD other

end IoKind

/-- A failed read or write. -/
structure IoFailure where
  kind : IoKind
  text : String
deriving DecidableEq, Repr, Inhabited

namespace IoFailure

/-- A failure of which nothing but its kind is known. -/
def ofKind (kind : IoKind) : IoFailure := ⟨kind, kind.text⟩

/-- The data ended before a buffer was full. -/
def endOfFile : IoFailure := ⟨.unexpectedEof, "failed to fill whole buffer"⟩

/-- A write took nothing. -/
def nothingWritten : IoFailure := ⟨.writeZero, "failed to write whole buffer"⟩

/-- A read or connect may not be given no time at all. -/
def noTime : IoFailure := ⟨.invalidInput, "cannot set a 0 duration timeout"⟩

end IoFailure

end Courier
