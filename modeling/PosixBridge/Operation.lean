import PosixBridge.ReturnType

/-!
# The catalog of operations

The operations of the host that the bridge carries, each with its C prototype. The
prototype is the whole definition of an operation here: its arguments are passed on
as they are, and its result type decides how a failure is reported.

Two operations, `getuid` and `getgid`, are declared to return a signed integer although
the host returns an unsigned id, so the type the host answers in, `Operation.hostResult`,
is told apart from the declared one. The two always have the same width, and
`Operation.ofHost` reinterprets the bits.
-/

namespace PosixBridge

/-- A parameter of a prototype. -/
structure Parameter where
  name : String
  type : CType
  deriving DecidableEq, Repr

/-- A C prototype. -/
structure Prototype where
  name : String
  parameters : List Parameter
  result : ReturnType

/-- The operations, in catalog order. -/
inductive Operation
  | openFile | close | dup | dup2 | dup3
  | read | write | readv | writev | sendfile
  | fcntl | ioctl
  | stat | fstat | lstat | unlink | rename | renameat | access | faccessat
  | mmap | munmap
  | socket | bind | listen | connect | accept | getsockname | getsockopt | setsockopt
  | sendto | recvfrom | sendmsg | recvmsg | pipe | pipe2
  | getuid | getgid | geteuid | getegid | setuid | setgid
  | lseek | ftruncate
  deriving DecidableEq, Repr

namespace Parameter

-- One for each C type, so that a prototype is written as the host declares it.
@[reducible] def int (name : String) : Parameter := ⟨name, .int⟩
@[reducible] def mode (name : String) : Parameter := ⟨name, .mode⟩
@[reducible] def socklen (name : String) : Parameter := ⟨name, .socklen⟩
@[reducible] def ident (name : String) : Parameter := ⟨name, .ident⟩
@[reducible] def size (name : String) : Parameter := ⟨name, .size⟩
@[reducible] def unsignedLong (name : String) : Parameter := ⟨name, .unsignedLong⟩
@[reducible] def offset (name : String) : Parameter := ⟨name, .offset⟩
@[reducible] def pointer (name : String) : Parameter := ⟨name, .pointer⟩

end Parameter

namespace Operation

open Parameter in
/-- The prototype of each operation, as the host declares it. -/
def prototype : Operation → Prototype
  | .openFile => ⟨"open", [pointer "pathname", int "flags", mode "mode"], .int⟩
  | .close => ⟨"close", [int "fd"], .int⟩
  | .dup => ⟨"dup", [int "oldfd"], .int⟩
  | .dup2 => ⟨"dup2", [int "oldfd", int "newfd"], .int⟩
  | .dup3 => ⟨"dup3", [int "oldfd", int "newfd", int "flags"], .int⟩
  | .read => ⟨"read", [int "fd", pointer "buf", size "count"], .ssize⟩
  | .write => ⟨"write", [int "fd", pointer "buf", size "count"], .ssize⟩
  | .readv => ⟨"readv", [int "fd", pointer "iov", int "iovcnt"], .ssize⟩
  | .writev => ⟨"writev", [int "fd", pointer "iov", int "iovcnt"], .ssize⟩
  | .sendfile =>
    ⟨"sendfile", [int "out_fd", int "in_fd", pointer "offset", size "count"], .ssize⟩
  | .fcntl => ⟨"fcntl", [int "fd", int "cmd", pointer "arg"], .int⟩
  | .ioctl => ⟨"ioctl", [int "fd", unsignedLong "request", pointer "argp"], .int⟩
  | .stat => ⟨"stat", [pointer "path", pointer "statbuf"], .int⟩
  | .fstat => ⟨"fstat", [int "fd", pointer "statbuf"], .int⟩
  | .lstat => ⟨"lstat", [pointer "path", pointer "statbuf"], .int⟩
  | .unlink => ⟨"unlink", [pointer "path"], .int⟩
  | .rename => ⟨"rename", [pointer "old", pointer "new"], .int⟩
  | .renameat => ⟨"renameat", [int "oldfd", pointer "old", int "newfd", pointer "new"], .int⟩
  | .access => ⟨"access", [pointer "path", int "amode"], .int⟩
  | .faccessat => ⟨"faccessat", [int "fd", pointer "path", int "amode", int "flag"], .int⟩
  | .mmap =>
    ⟨"mmap", [pointer "addr", size "length", int "prot", int "flags", int "fd",
      offset "offset"], .pointer⟩
  | .munmap => ⟨"munmap", [pointer "addr", size "length"], .int⟩
  | .socket => ⟨"socket", [int "domain", int "socktype", int "protocol"], .int⟩
  | .bind => ⟨"bind", [int "sockfd", pointer "addr", socklen "addrlen"], .int⟩
  | .listen => ⟨"listen", [int "sockfd", int "backlog"], .int⟩
  | .connect => ⟨"connect", [int "sockfd", pointer "addr", socklen "addrlen"], .int⟩
  | .accept => ⟨"accept", [int "sockfd", pointer "addr", pointer "addrlen"], .int⟩
  | .getsockname => ⟨"getsockname", [int "sockfd", pointer "addr", pointer "addrlen"], .int⟩
  | .getsockopt =>
    ⟨"getsockopt", [int "sockfd", int "level", int "optname", pointer "optval",
      pointer "optlen"], .int⟩
  | .setsockopt =>
    ⟨"setsockopt", [int "sockfd", int "level", int "optname", pointer "optval",
      socklen "optlen"], .int⟩
  | .sendto =>
    ⟨"sendto", [int "sockfd", pointer "message", size "length", int "flags",
      pointer "dest_addr", socklen "dest_len"], .ssize⟩
  | .recvfrom =>
    ⟨"recvfrom", [int "sockfd", pointer "buffer", size "length", int "flags",
      pointer "address", pointer "address_len"], .ssize⟩
  | .sendmsg => ⟨"sendmsg", [int "sockfd", pointer "message", int "flags"], .ssize⟩
  | .recvmsg => ⟨"recvmsg", [int "sockfd", pointer "message", int "flags"], .ssize⟩
  | .pipe => ⟨"pipe", [pointer "pipefd"], .int⟩
  | .pipe2 => ⟨"pipe2", [pointer "pipefd", int "flags"], .int⟩
  | .getuid => ⟨"getuid", [], .int⟩
  | .getgid => ⟨"getgid", [], .int⟩
  | .geteuid => ⟨"geteuid", [], .ident⟩
  | .getegid => ⟨"getegid", [], .ident⟩
  | .setuid => ⟨"setuid", [ident "uid"], .int⟩
  | .setgid => ⟨"setgid", [ident "gid"], .int⟩
  | .lseek => ⟨"lseek", [int "fd", offset "offset", int "whence"], .offset⟩
  | .ftruncate => ⟨"ftruncate", [int "fd", offset "length"], .int⟩

/-- The host's name for the operation. -/
def name (op : Operation) : String := op.prototype.name

def parameters (op : Operation) : List Parameter := op.prototype.parameters

def result (op : Operation) : ReturnType := op.prototype.result

/-- The type in which the host answers. -/
def hostResult : Operation → ReturnType
  | .getuid | .getgid => .ident
  | op => op.result

/-- The host's type has the width of the declared one. -/
theorem width_hostResult (op : Operation) : op.hostResult.width = op.result.width := by
  cases op <;> rfl

/-- The host's answer as a value of the declared type: the same bits. -/
def ofHost (op : Operation) (v : op.hostResult.Word) : op.result.Word :=
  v.cast op.width_hostResult

/-- The whole catalog, in order. -/
def all : List Operation :=
  [.openFile, .close, .dup, .dup2, .dup3,
   .read, .write, .readv, .writev, .sendfile,
   .fcntl, .ioctl,
   .stat, .fstat, .lstat, .unlink, .rename, .renameat, .access, .faccessat,
   .mmap, .munmap,
   .socket, .bind, .listen, .connect, .accept, .getsockname, .getsockopt, .setsockopt,
   .sendto, .recvfrom, .sendmsg, .recvmsg, .pipe, .pipe2,
   .getuid, .getgid, .geteuid, .getegid, .setuid, .setgid,
   .lseek, .ftruncate]

/-- The operation of the given name, if the catalog has one. -/
def ofName? (name : String) : Option Operation := all.find? (·.name == name)

theorem mem_all (op : Operation) : op ∈ all := by cases op <;> decide

/-- Every operation is found under its own name. -/
theorem ofName?_name (op : Operation) : ofName? op.name = some op := by cases op <;> rfl

/-- What every exported symbol begins with. -/
def symbolStem : String := "__lind_posix_"

/-- The symbol under which the operation of the given name is exported. -/
def symbolName (name : String) : String := symbolStem ++ name

end Operation

end PosixBridge
