/-!
# Kinds of failure

A coarse classification of error codes, for callers that want to tell a missing file from
a refused permission without knowing any numbering. Several codes may share a kind, and
every code has one: `FailureKind.uncategorized` takes all codes that no other kind claims.
-/

namespace PosixBridge

/-- What sort of thing went wrong. -/
inductive FailureKind
  | permissionDenied | notFound | interrupted | inputOutputError | argumentListTooLong
  | wouldBlock | outOfMemory | resourceBusy | alreadyExists | crossesDevices | notADirectory
  | isADirectory | invalidInput | tooManyOpenFiles | executableFileBusy | fileTooLarge
  | storageFull | notSeekable | readOnlyFilesystem | tooManyLinks | brokenPipe | deadlock
  | invalidFilename | unsupported | directoryNotEmpty | filesystemLoop | addrInUse
  | addrNotAvailable | networkDown | networkUnreachable | connectionAborted | connectionReset
  | notConnected | timedOut | connectionRefused | hostUnreachable | inProgress
  | staleNetworkFileHandle | quotaExceeded | uncategorized
  deriving DecidableEq, Repr

namespace FailureKind

/-- The kind's name, as it is reported to callers. -/
def name : FailureKind → String
  | .permissionDenied => "PermissionDenied"
  | .notFound => "NotFound"
  | .interrupted => "Interrupted"
  | .inputOutputError => "InputOutputError"
  | .argumentListTooLong => "ArgumentListTooLong"
  | .wouldBlock => "WouldBlock"
  | .outOfMemory => "OutOfMemory"
  | .resourceBusy => "ResourceBusy"
  | .alreadyExists => "AlreadyExists"
  | .crossesDevices => "CrossesDevices"
  | .notADirectory => "NotADirectory"
  | .isADirectory => "IsADirectory"
  | .invalidInput => "InvalidInput"
  | .tooManyOpenFiles => "TooManyOpenFiles"
  | .executableFileBusy => "ExecutableFileBusy"
  | .fileTooLarge => "FileTooLarge"
  | .storageFull => "StorageFull"
  | .notSeekable => "NotSeekable"
  | .readOnlyFilesystem => "ReadOnlyFilesystem"
  | .tooManyLinks => "TooManyLinks"
  | .brokenPipe => "BrokenPipe"
  | .deadlock => "Deadlock"
  | .invalidFilename => "InvalidFilename"
  | .unsupported => "Unsupported"
  | .directoryNotEmpty => "DirectoryNotEmpty"
  | .filesystemLoop => "FilesystemLoop"
  | .addrInUse => "AddrInUse"
  | .addrNotAvailable => "AddrNotAvailable"
  | .networkDown => "NetworkDown"
  | .networkUnreachable => "NetworkUnreachable"
  | .connectionAborted => "ConnectionAborted"
  | .connectionReset => "ConnectionReset"
  | .notConnected => "NotConnected"
  | .timedOut => "TimedOut"
  | .connectionRefused => "ConnectionRefused"
  | .hostUnreachable => "HostUnreachable"
  | .inProgress => "InProgress"
  | .staleNetworkFileHandle => "StaleNetworkFileHandle"
  | .quotaExceeded => "QuotaExceeded"
  | .uncategorized => "Uncategorized"

/-- The codes that have a kind of their own, with that kind, in the Linux numbering. -/
def ownCodes : List (Int32 × FailureKind) :=
  [(1, .permissionDenied), (2, .notFound), (4, .interrupted), (5, .inputOutputError),
   (7, .argumentListTooLong), (11, .wouldBlock), (12, .outOfMemory), (13, .permissionDenied),
   (16, .resourceBusy), (17, .alreadyExists), (18, .crossesDevices), (20, .notADirectory),
   (21, .isADirectory), (22, .invalidInput), (23, .tooManyOpenFiles),
   (24, .tooManyOpenFiles), (26, .executableFileBusy), (27, .fileTooLarge),
   (28, .storageFull), (29, .notSeekable), (30, .readOnlyFilesystem), (31, .tooManyLinks),
   (32, .brokenPipe), (35, .deadlock), (36, .invalidFilename), (38, .unsupported),
   (39, .directoryNotEmpty), (40, .filesystemLoop), (95, .unsupported), (98, .addrInUse),
   (99, .addrNotAvailable), (100, .networkDown), (101, .networkUnreachable),
   (103, .connectionAborted), (104, .connectionReset), (107, .notConnected),
   (110, .timedOut), (111, .connectionRefused), (113, .hostUnreachable), (115, .inProgress),
   (116, .staleNetworkFileHandle), (122, .quotaExceeded)]

/-- The kind of a code; a code that no kind claims is uncategorized. -/
def ofCode (code : Int32) : FailureKind := (ownCodes.lookup code).getD .uncategorized

end FailureKind

end PosixBridge
