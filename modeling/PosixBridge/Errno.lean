/-!
# Error numbers

An error number is a 32-bit signed word. The hosts this library talks to use the Linux
numbering; `Errno` is the part of it that has a name here. The numbering has gaps, and a
code in a gap, above the last name, zero or negative is a legal error number without a
name. Systems that number an error otherwise, among them those that are no unix and have 40
for `ENOSYS`, are left out.

`Errno.ofCode?` is the reading of a code, `Errno.code` its inverse.
-/

namespace PosixBridge

/-- The named error numbers, in increasing order of their codes. -/
inductive Errno
  | EPERM | ENOENT | ESRCH | EINTR | EIO | ENXIO | EBIG | ENOEXEC | EBADF | ECHILD | EAGAIN
  | ENOMEM | EACCES | EFAULT | ENOTBLK | EBUSY | EEXIST | EXDEV | ENODEV | ENOTDIR | EISDIR
  | EINVAL | ENFILE | EMFILE | ENOTTY | ETXTBSY | EFBIG | ENOSPC | ESPIPE | EROFS | EMLINK
  | EPIPE | EDOM | ERANGE | EDEADLK | ENAMETOOLONG | ENOLCK | ENOSYS | ENOTEMPTY | ELOOP
  | ENOTSOCK | EDESTADDRREQ | EMSGSIZE | EPROTOTYPE | ENOPROTOOPT | EPROTONOSUPPORT
  | EOPNOTSUPP | EAFNOSUPPORT | EADDRINUSE | EADDRNOTAVAIL | ENETUNREACH | ECONNABORTED
  | ECONNRESET | EISCONN | ENOTCONN | ETIMEDOUT | ECONNREFUSED | EALREADY | EINPROGRESS
  deriving DecidableEq, Repr

namespace Errno

/-- The number that stands for the error, in the Linux numbering. -/
def code : Errno → Int32
  | .EPERM => 1
  | .ENOENT => 2
  | .ESRCH => 3
  | .EINTR => 4
  | .EIO => 5
  | .ENXIO => 6
  | .EBIG => 7
  | .ENOEXEC => 8
  | .EBADF => 9
  | .ECHILD => 10
  | .EAGAIN => 11
  | .ENOMEM => 12
  | .EACCES => 13
  | .EFAULT => 14
  | .ENOTBLK => 15
  | .EBUSY => 16
  | .EEXIST => 17
  | .EXDEV => 18
  | .ENODEV => 19
  | .ENOTDIR => 20
  | .EISDIR => 21
  | .EINVAL => 22
  | .ENFILE => 23
  | .EMFILE => 24
  | .ENOTTY => 25
  | .ETXTBSY => 26
  | .EFBIG => 27
  | .ENOSPC => 28
  | .ESPIPE => 29
  | .EROFS => 30
  | .EMLINK => 31
  | .EPIPE => 32
  | .EDOM => 33
  | .ERANGE => 34
  | .EDEADLK => 35
  | .ENAMETOOLONG => 36
  | .ENOLCK => 37
  | .ENOSYS => 38
  | .ENOTEMPTY => 39
  | .ELOOP => 40
  | .ENOTSOCK => 88
  | .EDESTADDRREQ => 89
  | .EMSGSIZE => 90
  | .EPROTOTYPE => 91
  | .ENOPROTOOPT => 92
  | .EPROTONOSUPPORT => 93
  | .EOPNOTSUPP => 95
  | .EAFNOSUPPORT => 97
  | .EADDRINUSE => 98
  | .EADDRNOTAVAIL => 99
  | .ENETUNREACH => 101
  | .ECONNABORTED => 103
  | .ECONNRESET => 104
  | .EISCONN => 106
  | .ENOTCONN => 107
  | .ETIMEDOUT => 110
  | .ECONNREFUSED => 111
  | .EALREADY => 114
  | .EINPROGRESS => 115

/-- The name of the error, as it is declared. -/
def name : Errno → String
  | .EPERM => "EPERM"
  | .ENOENT => "ENOENT"
  | .ESRCH => "ESRCH"
  | .EINTR => "EINTR"
  | .EIO => "EIO"
  | .ENXIO => "ENXIO"
  | .EBIG => "EBIG"
  | .ENOEXEC => "ENOEXEC"
  | .EBADF => "EBADF"
  | .ECHILD => "ECHILD"
  | .EAGAIN => "EAGAIN"
  | .ENOMEM => "ENOMEM"
  | .EACCES => "EACCES"
  | .EFAULT => "EFAULT"
  | .ENOTBLK => "ENOTBLK"
  | .EBUSY => "EBUSY"
  | .EEXIST => "EEXIST"
  | .EXDEV => "EXDEV"
  | .ENODEV => "ENODEV"
  | .ENOTDIR => "ENOTDIR"
  | .EISDIR => "EISDIR"
  | .EINVAL => "EINVAL"
  | .ENFILE => "ENFILE"
  | .EMFILE => "EMFILE"
  | .ENOTTY => "ENOTTY"
  | .ETXTBSY => "ETXTBSY"
  | .EFBIG => "EFBIG"
  | .ENOSPC => "ENOSPC"
  | .ESPIPE => "ESPIPE"
  | .EROFS => "EROFS"
  | .EMLINK => "EMLINK"
  | .EPIPE => "EPIPE"
  | .EDOM => "EDOM"
  | .ERANGE => "ERANGE"
  | .EDEADLK => "EDEADLK"
  | .ENAMETOOLONG => "ENAMETOOLONG"
  | .ENOLCK => "ENOLCK"
  | .ENOSYS => "ENOSYS"
  | .ENOTEMPTY => "ENOTEMPTY"
  | .ELOOP => "ELOOP"
  | .ENOTSOCK => "ENOTSOCK"
  | .EDESTADDRREQ => "EDESTADDRREQ"
  | .EMSGSIZE => "EMSGSIZE"
  | .EPROTOTYPE => "EPROTOTYPE"
  | .ENOPROTOOPT => "ENOPROTOOPT"
  | .EPROTONOSUPPORT => "EPROTONOSUPPORT"
  | .EOPNOTSUPP => "EOPNOTSUPP"
  | .EAFNOSUPPORT => "EAFNOSUPPORT"
  | .EADDRINUSE => "EADDRINUSE"
  | .EADDRNOTAVAIL => "EADDRNOTAVAIL"
  | .ENETUNREACH => "ENETUNREACH"
  | .ECONNABORTED => "ECONNABORTED"
  | .ECONNRESET => "ECONNRESET"
  | .EISCONN => "EISCONN"
  | .ENOTCONN => "ENOTCONN"
  | .ETIMEDOUT => "ETIMEDOUT"
  | .ECONNREFUSED => "ECONNREFUSED"
  | .EALREADY => "EALREADY"
  | .EINPROGRESS => "EINPROGRESS"

def all : List Errno :=
  [.EPERM, .ENOENT, .ESRCH, .EINTR, .EIO, .ENXIO, .EBIG, .ENOEXEC, .EBADF, .ECHILD, .EAGAIN,
   .ENOMEM, .EACCES, .EFAULT, .ENOTBLK, .EBUSY, .EEXIST, .EXDEV, .ENODEV, .ENOTDIR, .EISDIR,
   .EINVAL, .ENFILE, .EMFILE, .ENOTTY, .ETXTBSY, .EFBIG, .ENOSPC, .ESPIPE, .EROFS, .EMLINK,
   .EPIPE, .EDOM, .ERANGE, .EDEADLK, .ENAMETOOLONG, .ENOLCK, .ENOSYS, .ENOTEMPTY, .ELOOP,
   .ENOTSOCK, .EDESTADDRREQ, .EMSGSIZE, .EPROTOTYPE, .ENOPROTOOPT, .EPROTONOSUPPORT,
   .EOPNOTSUPP, .EAFNOSUPPORT, .EADDRINUSE, .EADDRNOTAVAIL, .ENETUNREACH, .ECONNABORTED,
   .ECONNRESET, .EISCONN, .ENOTCONN, .ETIMEDOUT, .ECONNREFUSED, .EALREADY, .EINPROGRESS]

/-- The named error with the given code, if there is one. -/
def ofCode? (code : Int32) : Option Errno := all.find? (·.code == code)

theorem mem_all (e : Errno) : e ∈ all := by cases e <;> decide

/-- An error is found under its own code. -/
theorem ofCode?_code (e : Errno) : ofCode? e.code = some e := by cases e <;> rfl

/-- The reading of a code gives the one error that has this code. -/
theorem ofCode?_eq_some_iff {c : Int32} {e : Errno} : ofCode? c = some e ↔ e.code = c := by
  constructor
  · intro h
    unfold ofCode? at h
    simpa using List.find?_some h
  · rintro rfl
    exact ofCode?_code e

end Errno

end PosixBridge
