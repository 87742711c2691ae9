/-
# System errors

A failed call to the operating system is known by a number, a text and sometimes
the file it was about.  A few errors are raised by the library itself and carry
only a text.  Some numbers have a meaning of their own: missing privileges, and
calls that may simply be repeated.
-/
import NetBoot.Text.Quoted

namespace NetBoot

/-- A failed call. -/
structure SystemError where
  number : Option Int
  reason : String
  file : Option String := none
  deriving DecidableEq, Repr

namespace SystemError

/-- The error of a numbered failure. -/
def numbered (number : Int) (reason : String) : SystemError := ⟨some number, reason, none⟩

/-- The error of a failure that has only a text. -/
def plain (reason : String) : SystemError := ⟨none, reason, none⟩

/-- A file that does not exist. -/
def noFile (path : String) : SystemError := ⟨some 2, "No such file or directory", some path⟩

/-- A file that exists already. -/
def fileExists (path : String) : SystemError := ⟨some 17, "File exists", some path⟩

/-- A file in the place of a folder. -/
def notFolder (path : String) : SystemError := ⟨some 20, "Not a directory", some path⟩

/-- A folder in the place of a file. -/
def isFolder (path : String) : SystemError := ⟨some 21, "Is a directory", some path⟩

/-- A path with a part that is too long, or too long as a whole. -/
def nameTooLong (path : String) : SystemError := ⟨some 36, "File name too long", some path⟩

/-- A device that does not exist. -/
def noDevice : SystemError := numbered 19 "No such device"

/-- The error as text. -/
def message (error : SystemError) : String :=
  match error.number with
  | none => error.reason
  | some number =>
    let about := match error.file with
      | some path => ": " ++ Text.Quoted.ofText path
      | none => ""
    "[Errno " ++ toString number ++ "] " ++ error.reason ++ about

/-- Did the call fail for a file that does not exist? -/
def isMissing (error : SystemError) : Bool := error.number == some 2

/-- Was the call refused for lack of privileges? -/
def isPermission (error : SystemError) : Bool :=
  error.number == some 1 || error.number == some 13

/-- Would the call have blocked, or was it interrupted? -/
def isTransient (error : SystemError) : Bool :=
  [4, 11, 114, 115].any fun number => error.number == some number

/-- The symbolic names of error numbers. -/
def symbols : List (Nat × String) :=
  [(1, "EPERM"), (2, "ENOENT"), (3, "ESRCH"), (4, "EINTR"), (5, "EIO"), (6, "ENXIO"),
   (7, "E2BIG"), (8, "ENOEXEC"), (9, "EBADF"), (10, "ECHILD"), (11, "EAGAIN"), (12, "ENOMEM"),
   (13, "EACCES"), (14, "EFAULT"), (15, "ENOTBLK"), (16, "EBUSY"), (17, "EEXIST"), (18, "EXDEV"),
   (19, "ENODEV"), (20, "ENOTDIR"), (21, "EISDIR"), (22, "EINVAL"), (23, "ENFILE"),
   (24, "EMFILE"), (25, "ENOTTY"), (26, "ETXTBSY"), (27, "EFBIG"), (28, "ENOSPC"), (29, "ESPIPE"),
   (30, "EROFS"), (31, "EMLINK"), (32, "EPIPE"), (33, "EDOM"), (34, "ERANGE"), (35, "EDEADLOCK"),
   (36, "ENAMETOOLONG"), (37, "ENOLCK"), (38, "ENOSYS"), (39, "ENOTEMPTY"), (40, "ELOOP"),
   (42, "ENOMSG"), (43, "EIDRM"), (44, "ECHRNG"), (45, "EL2NSYNC"), (46, "EL3HLT"),
   (47, "EL3RST"), (48, "ELNRNG"), (49, "EUNATCH"), (50, "ENOCSI"), (51, "EL2HLT"), (52, "EBADE"),
   (53, "EBADR"), (54, "EXFULL"), (55, "ENOANO"), (56, "EBADRQC"), (57, "EBADSLT"),
   (59, "EBFONT"), (60, "ENOSTR"), (61, "ENODATA"), (62, "ETIME"), (63, "ENOSR"), (64, "ENONET"),
   (65, "ENOPKG"), (66, "EREMOTE"), (67, "ENOLINK"), (68, "EADV"), (69, "ESRMNT"), (70, "ECOMM"),
   (71, "EPROTO"), (72, "EMULTIHOP"), (73, "EDOTDOT"), (74, "EBADMSG"), (75, "EOVERFLOW"),
   (76, "ENOTUNIQ"), (77, "EBADFD"), (78, "EREMCHG"), (79, "ELIBACC"), (80, "ELIBBAD"),
   (81, "ELIBSCN"), (82, "ELIBMAX"), (83, "ELIBEXEC"), (84, "EILSEQ"), (85, "ERESTART"),
   (86, "ESTRPIPE"), (87, "EUSERS"), (88, "ENOTSOCK"), (89, "EDESTADDRREQ"), (90, "EMSGSIZE"),
   (91, "EPROTOTYPE"), (92, "ENOPROTOOPT"), (93, "EPROTONOSUPPORT"), (94, "ESOCKTNOSUPPORT"),
   (95, "ENOTSUP"), (96, "EPFNOSUPPORT"), (97, "EAFNOSUPPORT"), (98, "EADDRINUSE"),
   (99, "EADDRNOTAVAIL"), (100, "ENETDOWN"), (101, "ENETUNREACH"), (102, "ENETRESET"),
   (103, "ECONNABORTED"), (104, "ECONNRESET"), (105, "ENOBUFS"), (106, "EISCONN"),
   (107, "ENOTCONN"), (108, "ESHUTDOWN"), (109, "ETOOMANYREFS"), (110, "ETIMEDOUT"),
   (111, "ECONNREFUSED"), (112, "EHOSTDOWN"), (113, "EHOSTUNREACH"), (114, "EALREADY"),
   (115, "EINPROGRESS"), (116, "ESTALE"), (117, "EUCLEAN"), (118, "ENOTNAM"), (119, "ENAVAIL"),
   (120, "EISNAM"), (121, "EREMOTEIO"), (122, "EDQUOT"), (123, "ENOMEDIUM"), (124, "EMEDIUMTYPE"),
   (125, "ECANCELED"), (126, "ENOKEY"), (127, "EKEYEXPIRED"), (128, "EKEYREVOKED"),
   (129, "EKEYREJECTED"), (130, "EOWNERDEAD"), (131, "ENOTRECOVERABLE"), (132, "ERFKILL")]

/-- The symbolic name of an error, if its number has one. -/
def symbol? (error : SystemError) : Option String :=
  error.number.bind fun number =>
    (symbols.find? fun entry => (entry.1 : Int) == number).map Prod.snd

end SystemError
end NetBoot
