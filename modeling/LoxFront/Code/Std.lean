/-!
The names generated code sees besides its own items: the primitive types, the standard prelude,
the crates `std` and `core` with their modules and what each module holds in the namespace of
types, and the macros of the standard library.

Each module of the standard library is listed with the items `std` and `core` both have in it,
those only `std` has (from its allocation and operating system parts) and those only `core`
has; a module may be in one crate only. An item records what it is, how many lifetime
parameters it takes, and for an enum its variants. Functions, constants and macros live in
other namespaces and are left out. A few modules specific to the platform are not listed item
by item: every name is taken to be in them, so that a path through them is never reported.
-/
namespace LoxFront.Code

/-- What a name denotes, as far as paths are concerned; `localRoot` is the root module of the
code itself, `selfType` is `Self`, and `outerParam` a type parameter of an item around the one
where the name is used, which it cannot use. -/
inductive Entity where
  | structTy
  | enumTy
  | traitItem
  | alias
  | union
  | builtin
  | crateRoot
  | module
  | variant
  | localRoot
  | selfType
  | traitAlias
  | typeParam
  | outerParam
  deriving DecidableEq

def Entity.descr : Entity → String
  | .structTy => "struct"
  | .enumTy => "enum"
  | .traitItem => "trait"
  | .alias => "type alias"
  | .union => "union"
  | .builtin => "builtin type"
  | .crateRoot => "crate"
  | .module => "module"
  | .variant => "variant"
  | .localRoot => "module"
  | .selfType => "self type"
  | .traitAlias => "trait alias"
  | .typeParam | .outerParam => "type parameter"

def Entity.isTypeLike : Entity → Bool
  | .crateRoot | .module | .variant | .localRoot => false
  | _ => true

def primitiveTypes : List String :=
  ["bool", "char", "str", "u8", "u16", "u32", "u64", "u128", "usize", "i8", "i16", "i32", "i64",
   "i128", "isize", "f32", "f64", "f16", "f128"]

/-- An item a module of the standard library holds in the namespace of types: its name, what it
is, how many lifetime parameters it takes, and the variants of an enum. -/
structure StdItem where
  name : String
  entity : Entity
  lifetimes : Nat := 0
  variants : List String := []

def StdItem.many (e : Entity) (names : List String) : List StdItem :=
  names.map fun n => { name := n, entity := e }

def StdItem.st (name : String) (lifetimes : Nat) : StdItem :=
  { name, entity := .structTy, lifetimes }

def StdItem.tr (name : String) (lifetimes : Nat) : StdItem :=
  { name, entity := .traitItem, lifetimes }

def StdItem.al (name : String) (lifetimes : Nat) : StdItem :=
  { name, entity := .alias, lifetimes }

def StdItem.en (name : String) (lifetimes : Nat) (variants : List String) : StdItem :=
  { name, entity := .enumTy, lifetimes, variants }

/-- A module of the standard library: its path below the crate root, the items both crates have
in it, those only `std` has and those only `core` has, which crates have it, and whether its
items are left unlisted. -/
structure StdModule where
  path : List String
  shared : List StdItem := []
  stdOnly : List StdItem := []
  coreOnly : List StdItem := []
  inStd : Bool := true
  inCore : Bool := true
  unlisted : Bool := false

def StdModule.inCrate (m : StdModule) (core : Bool) : Bool := if core then m.inCore else m.inStd

def StdModule.items (m : StdModule) (core : Bool) : List StdItem :=
  m.shared ++ if core then m.coreOnly else m.stdOnly

def asciiCharVariants : List String :=
  ["Null", "StartOfHeading", "StartOfText", "EndOfText", "EndOfTransmission", "Enquiry",
   "Acknowledge", "Bell", "Backspace", "CharacterTabulation", "LineFeed", "LineTabulation",
   "FormFeed", "CarriageReturn", "ShiftOut", "ShiftIn", "DataLinkEscape", "DeviceControlOne",
   "DeviceControlTwo", "DeviceControlThree", "DeviceControlFour", "NegativeAcknowledge",
   "SynchronousIdle", "EndOfTransmissionBlock", "Cancel", "EndOfMedium", "Substitute", "Escape",
   "InformationSeparatorFour", "InformationSeparatorThree", "InformationSeparatorTwo",
   "InformationSeparatorOne", "Space", "ExclamationMark", "QuotationMark", "NumberSign",
   "DollarSign", "PercentSign", "Ampersand", "Apostrophe", "LeftParenthesis",
   "RightParenthesis", "Asterisk", "PlusSign", "Comma", "HyphenMinus", "FullStop", "Solidus",
   "Digit0", "Digit1", "Digit2", "Digit3", "Digit4", "Digit5", "Digit6", "Digit7", "Digit8",
   "Digit9", "Colon", "Semicolon", "LessThanSign", "EqualsSign", "GreaterThanSign",
   "QuestionMark", "CommercialAt"] ++
  ("ABCDEFGHIJKLMNOPQRSTUVWXYZ".toList.map fun c => "Capital" ++ c.toString) ++
  ["LeftSquareBracket", "ReverseSolidus", "RightSquareBracket", "CircumflexAccent", "LowLine",
   "GraveAccent"] ++
  ("abcdefghijklmnopqrstuvwxyz".toList.map fun c => "Small" ++ c.toUpper.toString) ++
  ["LeftCurlyBracket", "VerticalLine", "RightCurlyBracket", "Tilde", "Delete"]

def ioErrorKinds : List String :=
  ["NotFound", "PermissionDenied", "ConnectionRefused", "ConnectionReset", "HostUnreachable",
   "NetworkUnreachable", "ConnectionAborted", "NotConnected", "AddrInUse", "AddrNotAvailable",
   "NetworkDown", "BrokenPipe", "AlreadyExists", "WouldBlock", "NotADirectory", "IsADirectory",
   "DirectoryNotEmpty", "ReadOnlyFilesystem", "FilesystemLoop", "StaleNetworkFileHandle",
   "InvalidInput", "InvalidData", "TimedOut", "WriteZero", "StorageFull", "NotSeekable",
   "QuotaExceeded", "FileTooLarge", "ResourceBusy", "ExecutableFileBusy", "Deadlock",
   "CrossesDevices", "TooManyLinks", "InvalidFilename", "ArgumentListTooLong", "Interrupted",
   "Unsupported", "UnexpectedEof", "OutOfMemory", "InProgress", "Other", "Uncategorized"]

def simdAliases : List StdItem :=
  let lanes := [1, 2, 4, 8, 16, 32, 64]
  let elements := ["i8", "i16", "i32", "i64", "isize", "u8", "u16", "u32", "u64", "usize", "f32",
    "f64", "mask8", "mask16", "mask32", "mask64", "masksize"]
  elements.flatMap fun e => lanes.map fun n => { name := e ++ "x" ++ toString n, entity := .alias }

def cTypeAliases : List StdItem :=
  StdItem.many .alias ["c_char", "c_schar", "c_uchar", "c_short", "c_ushort", "c_int", "c_uint",
    "c_long", "c_ulong", "c_longlong", "c_ulonglong", "c_float", "c_double"] ++
  [.en "c_void" 0 ["__variant1", "__variant2"]]

def preludeShared : List StdItem :=
  StdItem.many .traitItem ["Copy", "Send", "Sized", "Sync", "Unpin", "Drop", "Fn", "FnMut",
    "FnOnce", "AsyncFn", "AsyncFnMut", "AsyncFnOnce", "Clone", "PartialEq", "PartialOrd", "Eq",
    "Ord", "AsRef", "AsMut", "Into", "From", "Default", "Iterator", "Extend", "IntoIterator",
    "DoubleEndedIterator", "ExactSizeIterator"] ++
  [.en "Option" 0 ["Some", "None"], .en "Result" 0 ["Ok", "Err"]]

def preludeStd : List StdItem :=
  [.st "Box" 0, .tr "ToOwned" 0, .st "String" 0, .tr "ToString" 0, .st "Vec" 0]

def prelude2021 : List StdItem := StdItem.many .traitItem ["TryFrom", "TryInto", "FromIterator"]

def prelude2024 : List StdItem := StdItem.many .traitItem ["Future", "IntoFuture"]

open StdItem in
def rootModulesA : List StdModule :=
  [{ path := ["alloc"],
     shared := many .structTy ["Layout", "LayoutError", "AllocError"] ++ [.al "LayoutErr" 0] ++
       many .traitItem ["GlobalAlloc", "Allocator"],
     stdOnly := many .structTy ["Global", "System"] },
   { path := ["any"], shared := [.tr "Any" 0, .st "TypeId" 0] },
   { path := ["arch"] },
   { path := ["arch", "x86_64"], unlisted := true },
   { path := ["array"], shared := many .structTy ["IntoIter", "TryFromSliceError"] },
   { path := ["ascii"], shared := [.st "EscapeDefault" 0, .en "Char" 0 asciiCharVariants],
     stdOnly := [.tr "AsciiExt" 0] },
   { path := ["asserting"], inStd := false,
     shared := many .structTy ["Capture", "Wrapper", "TryCaptureWithDebug",
       "TryCaptureWithoutDebug"] ++
       many .traitItem ["TryCaptureGeneric", "TryCapturePrintable", "Printable"] },
   { path := ["assert_matches"] },
   { path := ["async_iter"],
     shared := [.tr "AsyncIterator" 0, .tr "IntoAsyncIterator" 0, .st "FromIter" 0] },
   { path := ["autodiff"] },
   { path := ["backtrace"], inCore := false,
     shared := [.st "Backtrace" 0, .en "BacktraceStatus" 0 ["Unsupported", "Disabled", "Captured"],
       .st "BacktraceFrame" 0] },
   { path := ["borrow"], shared := many .traitItem ["Borrow", "BorrowMut"],
     stdOnly := [.en "Cow" 1 ["Borrowed", "Owned"], .tr "ToOwned" 0] },
   { path := ["boxed"], inCore := false, shared := many .structTy ["Box", "ThinBox"] },
   { path := ["bstr"], shared := [.st "ByteStr" 0], stdOnly := [.st "ByteString" 0] },
   { path := ["cell"],
     shared := many .structTy ["Cell", "RefCell", "UnsafeCell", "OnceCell", "LazyCell",
       "SyncUnsafeCell", "BorrowError", "BorrowMutError"] ++ [.st "Ref" 1, .st "RefMut" 1] },
   { path := ["char"],
     shared := many .structTy ["ParseCharError", "CharTryFromError", "ToLowercase", "ToUppercase",
       "DecodeUtf16", "DecodeUtf16Error", "EscapeDefault", "EscapeDebug", "EscapeUnicode",
       "TryFromCharError"] },
   { path := ["clone"],
     shared := many .traitItem ["Clone", "CloneToUninit", "UseCloned", "TrivialClone"] },
   { path := ["cmp"],
     shared := [.en "Ordering" 0 ["Less", "Equal", "Greater"], .st "Reverse" 0] ++
       many .traitItem ["PartialEq", "Eq", "PartialOrd", "Ord"] },
   { path := ["collections"], inCore := false,
     shared := many .structTy ["HashMap", "HashSet", "BTreeMap", "BTreeSet", "VecDeque",
       "LinkedList", "BinaryHeap", "TryReserveError"] ++
       [.en "TryReserveErrorKind" 0 ["CapacityOverflow", "AllocError"],
        .en "Bound" 0 ["Included", "Excluded", "Unbounded"]] },
   { path := ["contracts"] },
   { path := ["convert"],
     shared := many .traitItem ["From", "Into", "TryFrom", "TryInto", "AsRef", "AsMut",
       "FloatToInt"] ++ [.en "Infallible" 0 []] },
   { path := ["default"], shared := [.tr "Default" 0] },
   { path := ["env"], inCore := false,
     shared := many .structTy ["Args", "ArgsOs", "Vars", "VarsOs", "JoinPathsError"] ++
       [.en "VarError" 0 ["NotPresent", "NotUnicode"], .st "SplitPaths" 1] },
   { path := ["env", "consts"], inCore := false },
   { path := ["error"], shared := [.tr "Error" 0, .st "Request" 1], stdOnly := [.st "Report" 0] },
   { path := ["f16"] }, { path := ["f16", "consts"] },
   { path := ["f32"] }, { path := ["f32", "consts"] },
   { path := ["f64"] }, { path := ["f64", "consts"] },
   { path := ["f128"] }, { path := ["f128", "consts"] },
   { path := ["ffi"],
     shared := [.st "CStr" 0, .st "FromBytesWithNulError" 0, .st "FromBytesUntilNulError" 0,
       .st "VaList" 2, .st "VaListImpl" 1] ++ cTypeAliases ++
       many .alias ["c_size_t", "c_ssize_t", "c_ptrdiff_t"],
     stdOnly := many .structTy ["CString", "NulError", "IntoStringError", "FromVecWithNulError",
       "OsStr", "OsString"] },
   { path := ["ffi", "c_str"],
     shared := many .structTy ["CStr", "FromBytesWithNulError", "FromBytesUntilNulError"],
     stdOnly := many .structTy ["CString", "NulError", "IntoStringError", "FromVecWithNulError"] },
   { path := ["ffi", "os_str"], inCore := false,
     shared := [.st "OsStr" 0, .st "OsString" 0, .st "Display" 1] },
   { path := ["fmt"],
     shared := [.st "Arguments" 1, .st "Formatter" 1, .st "Error" 0,
       .en "Alignment" 0 ["Left", "Right", "Center"], .st "DebugList" 2, .st "DebugMap" 2,
       .st "DebugSet" 2, .st "DebugStruct" 2, .st "DebugTuple" 2, .st "FormattingOptions" 0,
       .en "Sign" 0 ["Plus", "Minus"], .en "DebugAsHex" 0 ["Lower", "Upper"], .st "FromFn" 0,
       .al "Result" 0] ++
       many .traitItem ["Binary", "Debug", "Display", "LowerExp", "LowerHex", "Octal", "Pointer",
         "UpperExp", "UpperHex", "Write"] },
   { path := ["fmt", "rt"], inStd := false, unlisted := true },
   { path := ["from"] },
   { path := ["fs"], inCore := false,
     shared := many .structTy ["File", "OpenOptions", "Metadata", "DirEntry", "ReadDir",
       "Permissions", "FileType", "DirBuilder", "FileTimes"] ++
       [.en "TryLockError" 0 ["Error", "WouldBlock"]] },
   { path := ["future"],
     shared := many .traitItem ["Future", "IntoFuture", "AsyncDrop"] ++
       many .structTy ["Ready", "Pending", "PollFn"] },
   { path := ["hash"],
     shared := many .traitItem ["Hash", "Hasher", "BuildHasher"] ++
       many .structTy ["BuildHasherDefault", "SipHasher"],
     stdOnly := many .structTy ["DefaultHasher", "RandomState"] },
   { path := ["hint"] },
   { path := ["i8"] }, { path := ["i16"] }, { path := ["i32"] }, { path := ["i64"] },
   { path := ["i128"] }, { path := ["isize"] },
   { path := ["intrinsics"],
     shared := [.en "AtomicOrdering" 0 ["Relaxed", "Release", "Acquire", "AcqRel", "SeqCst"]] },
   { path := ["intrinsics", "simd"], unlisted := true },
   { path := ["intrinsics", "mir"], unlisted := true },
   { path := ["intrinsics", "fallback"], unlisted := true },
   { path := ["io"], shared := [.st "BorrowedBuf" 1, .st "BorrowedCursor" 1],
     stdOnly := many .traitItem ["Read", "Write", "BufRead", "Seek", "IsTerminal"] ++
       many .structTy ["Error", "BufReader", "BufWriter", "LineWriter", "IntoInnerError",
         "WriterPanicked", "Cursor", "Stdin", "Stdout", "Stderr", "Lines", "Split", "Bytes",
         "Chain", "Take", "Empty", "Repeat", "Sink", "PipeReader", "PipeWriter"] ++
       [.en "ErrorKind" 0 ioErrorKinds, .al "Result" 0, .al "RawOsError" 0, .st "StdinLock" 1,
        .st "StdoutLock" 1, .st "StderrLock" 1, .st "IoSlice" 1, .st "IoSliceMut" 1,
        .en "SeekFrom" 0 ["Start", "End", "Current"]] },
   { path := ["io", "prelude"], inCore := false,
     shared := many .traitItem ["Read", "Write", "BufRead", "Seek"] },
   { path := ["iter"],
     shared := many .traitItem ["Iterator", "IntoIterator", "FromIterator", "DoubleEndedIterator",
       "ExactSizeIterator", "Extend", "Sum", "Product", "FusedIterator", "TrustedLen", "Step",
       "TrustedStep", "TrustedRandomAccess", "TrustedRandomAccessNoCoerce", "SourceIter",
       "InPlaceIterable"] ++
       many .structTy ["Chain", "Cloned", "Copied", "Cycle", "Empty", "Enumerate", "Filter",
         "FilterMap", "FlatMap", "Flatten", "FromFn", "Fuse", "Inspect", "Map", "MapWhile", "Once",
         "OnceWith", "Peekable", "Repeat", "RepeatN", "RepeatWith", "Rev", "Scan", "Skip",
         "SkipWhile", "StepBy", "Successors", "Take", "TakeWhile", "Zip", "ArrayChunks",
         "ByRefSized", "Intersperse", "IntersperseWith", "MapWindows", "FromCoroutine"] }]

open StdItem in
def rootModulesB : List StdModule :=
  [{ path := ["marker"],
     shared := many .traitItem ["Copy", "Send", "Sized", "Sync", "Unpin", "Unsize",
       "StructuralPartialEq", "Tuple", "ConstParamTy", "ConstParamTy_", "UnsizedConstParamTy",
       "PointeeSized", "MetaSized", "Freeze", "UnsafeUnpin", "Destruct", "FnPtr",
       "DiscriminantKind", "Variance", "CoercePointeeValidated", "BikeshedGuaranteedNoDrop"] ++
       many .structTy ["PhantomData", "PhantomPinned", "PhantomCovariant", "PhantomContravariant",
         "PhantomInvariant"] ++
       [.st "PhantomCovariantLifetime" 1, .st "PhantomContravariantLifetime" 1,
        .st "PhantomInvariantLifetime" 1] },
   { path := ["mem"],
     shared := many .structTy ["ManuallyDrop", "Discriminant", "Assume", "DropGuard"] ++
       [{ name := "MaybeUninit", entity := .union }] ++
       many .traitItem ["TransmuteFrom", "SizedTypeProperties"] },
   { path := ["net"],
     shared := [.en "IpAddr" 0 ["V4", "V6"], .st "Ipv4Addr" 0, .st "Ipv6Addr" 0,
       .en "Ipv6MulticastScope" 0 ["InterfaceLocal", "LinkLocal", "RealmLocal", "AdminLocal",
         "SiteLocal", "OrganizationLocal", "Global"],
       .en "SocketAddr" 0 ["V4", "V6"], .st "SocketAddrV4" 0, .st "SocketAddrV6" 0,
       .st "AddrParseError" 0],
     stdOnly := many .structTy ["TcpStream", "TcpListener", "UdpSocket", "IntoIncoming"] ++
       [.en "Shutdown" 0 ["Read", "Write", "Both"], .tr "ToSocketAddrs" 0, .st "Incoming" 1] },
   { path := ["num"],
     shared := many .structTy ["NonZero", "Wrapping", "Saturating", "ParseIntError",
       "ParseFloatError", "TryFromIntError"] ++
       many .alias ["NonZeroU8", "NonZeroU16", "NonZeroU32", "NonZeroU64", "NonZeroU128",
         "NonZeroUsize", "NonZeroI8", "NonZeroI16", "NonZeroI32", "NonZeroI64", "NonZeroI128",
         "NonZeroIsize"] ++
       [.en "IntErrorKind" 0 ["Empty", "InvalidDigit", "PosOverflow", "NegOverflow", "Zero"],
        .en "FpCategory" 0 ["Nan", "Infinite", "Zero", "Subnormal", "Normal"],
        .tr "ZeroablePrimitive" 0] },
   { path := ["offload"] },
   { path := ["ops"],
     shared := many .traitItem ["Add", "Sub", "Mul", "Div", "Rem", "Neg", "Not", "BitAnd",
       "BitOr", "BitXor", "Shl", "Shr", "AddAssign", "SubAssign", "MulAssign", "DivAssign",
       "RemAssign", "BitAndAssign", "BitOrAssign", "BitXorAssign", "ShlAssign", "ShrAssign",
       "Deref", "DerefMut", "DerefPure", "Receiver", "LegacyReceiver", "Drop", "Fn", "FnMut",
       "FnOnce", "AsyncFn", "AsyncFnMut", "AsyncFnOnce", "Index", "IndexMut", "RangeBounds",
       "IntoBounds", "OneSidedRange", "Coroutine", "Try", "FromResidual", "Residual",
       "CoerceUnsized", "DispatchFromDyn"] ++
       many .structTy ["Range", "RangeFrom", "RangeFull", "RangeInclusive", "RangeTo",
         "RangeToInclusive", "Yeet"] ++
       [.en "Bound" 0 ["Included", "Excluded", "Unbounded"],
        .en "ControlFlow" 0 ["Continue", "Break"],
        .en "CoroutineState" 0 ["Yielded", "Complete"],
        .en "OneSidedRangeBound" 0 ["StartInclusive", "End", "EndInclusive"]] },
   { path := ["option"],
     shared := [.en "Option" 0 ["Some", "None"], .st "Iter" 1, .st "IterMut" 1,
       .st "IntoIter" 0] },
   { path := ["os"], inCore := false },
   { path := ["os", "raw"], inCore := false, shared := cTypeAliases },
   { path := ["os", "fd"], inCore := false,
     shared := [.st "OwnedFd" 0, .st "BorrowedFd" 1, .al "RawFd" 0] ++
       many .traitItem ["AsFd", "AsRawFd", "FromRawFd", "IntoRawFd"] },
   { path := ["os", "unix"], inCore := false },
   { path := ["os", "unix", "ffi"], inCore := false, unlisted := true },
   { path := ["os", "unix", "fs"], inCore := false, unlisted := true },
   { path := ["os", "unix", "io"], inCore := false, unlisted := true },
   { path := ["os", "unix", "net"], inCore := false, unlisted := true },
   { path := ["os", "unix", "process"], inCore := false, unlisted := true },
   { path := ["os", "unix", "thread"], inCore := false, unlisted := true },
   { path := ["os", "unix", "prelude"], inCore := false, unlisted := true },
   { path := ["os", "unix", "raw"], inCore := false, unlisted := true },
   { path := ["os", "linux"], inCore := false },
   { path := ["os", "linux", "fs"], inCore := false, unlisted := true },
   { path := ["os", "linux", "process"], inCore := false, unlisted := true },
   { path := ["os", "linux", "raw"], inCore := false, unlisted := true },
   { path := ["os", "linux", "net"], inCore := false, unlisted := true },
   { path := ["os", "net"], inCore := false, unlisted := true },
   { path := ["panic"],
     shared := [.st "Location" 1, .st "AssertUnwindSafe" 0, .tr "UnwindSafe" 0,
       .tr "RefUnwindSafe" 0],
     stdOnly := [.st "PanicHookInfo" 1, .al "PanicInfo" 1,
       .en "BacktraceStyle" 0 ["Short", "Full", "Off"]],
     coreOnly := [.st "PanicInfo" 1, .st "PanicMessage" 1, .tr "PanicPayload" 0] },
   { path := ["panicking"], inStd := false, shared := [.en "AssertKind" 0 ["Eq", "Ne", "Match"]] },
   { path := ["pat"], shared := [.tr "RangePattern" 0] },
   { path := ["path"], inCore := false,
     shared := many .structTy ["Path", "PathBuf", "StripPrefixError", "NormalizeError"] ++
       [.st "Components" 1, .st "Display" 1, .st "Ancestors" 1, .st "Iter" 1,
        .st "PrefixComponent" 1,
        .en "Component" 1 ["Prefix", "RootDir", "CurDir", "ParentDir", "Normal"],
        .en "Prefix" 1 ["Verbatim", "VerbatimUNC", "VerbatimDisk", "DeviceNS", "UNC", "Disk"]] },
   { path := ["pin"], shared := [.st "Pin" 0, .tr "PinCoerceUnsized" 0] },
   { path := ["prelude"] },
   { path := ["prelude", "v1"], shared := preludeShared, stdOnly := preludeStd },
   { path := ["prelude", "rust_2015"], shared := preludeShared, stdOnly := preludeStd },
   { path := ["prelude", "rust_2018"], shared := preludeShared, stdOnly := preludeStd },
   { path := ["prelude", "rust_2021"], shared := preludeShared ++ prelude2021,
     stdOnly := preludeStd },
   { path := ["prelude", "rust_2024"], shared := preludeShared ++ prelude2021 ++ prelude2024,
     stdOnly := preludeStd },
   { path := ["primitive"],
     shared := many .builtin ["bool", "char", "str", "u8", "u16", "u32", "u64", "u128", "usize",
       "i8", "i16", "i32", "i64", "i128", "isize", "f32", "f64", "f16", "f128"] },
   { path := ["process"], inCore := false,
     shared := many .structTy ["Command", "Child", "ChildStdin", "ChildStdout", "ChildStderr",
       "Output", "ExitStatus", "ExitStatusError", "ExitCode", "Stdio"] ++
       [.st "CommandArgs" 1, .st "CommandEnvs" 1, .tr "Termination" 0] },
   { path := ["profiling"], inStd := false },
   { path := ["ptr"],
     shared := many .structTy ["NonNull", "DynMetadata", "Alignment"] ++
       [.tr "Pointee" 0, .al "Thin" 0] },
   { path := ["random"], shared := many .traitItem ["Random", "RandomSource"],
     stdOnly := [.st "DefaultRandomSource" 0] },
   { path := ["range"],
     shared := many .structTy ["Range", "RangeFrom", "RangeInclusive", "RangeToInclusive",
       "RangeFull", "RangeTo", "IterRange", "IterRangeFrom", "IterRangeInclusive"] ++
       [.en "Bound" 0 ["Included", "Excluded", "Unbounded"],
        .en "OneSidedRangeBound" 0 ["StartInclusive", "End", "EndInclusive"]] ++
       many .traitItem ["RangeBounds", "OneSidedRange", "IntoBounds", "Step"] },
   { path := ["range", "legacy"],
     shared := many .structTy ["Range", "RangeFrom", "RangeInclusive"] },
   { path := ["rc"], inCore := false, shared := many .structTy ["Rc", "Weak", "UniqueRc"] },
   { path := ["result"],
     shared := [.en "Result" 0 ["Ok", "Err"], .st "Iter" 1, .st "IterMut" 1,
       .st "IntoIter" 0] },
   { path := ["simd"],
     shared := many .structTy ["Simd", "Mask", "LaneCount"] ++
       many .traitItem ["SupportedLaneCount", "SimdElement", "MaskElement", "ToBytes",
         "Swizzle"] ++ simdAliases,
     stdOnly := [.tr "StdFloat" 0] },
   { path := ["simd", "prelude"], unlisted := true },
   { path := ["simd", "num"], shared := many .traitItem ["SimdInt", "SimdUint", "SimdFloat"] },
   { path := ["simd", "cmp"],
     shared := many .traitItem ["SimdPartialEq", "SimdPartialOrd", "SimdOrd"] },
   { path := ["simd", "ptr"], shared := many .traitItem ["SimdConstPtr", "SimdMutPtr"] },
   { path := ["slice"],
     shared := (["Iter", "IterMut", "Split", "SplitMut", "SplitN", "SplitNMut", "RSplit",
       "RSplitMut", "RSplitN", "RSplitNMut", "SplitInclusive", "SplitInclusiveMut", "Chunks",
       "ChunksMut", "ChunksExact", "ChunksExactMut", "RChunks", "RChunksMut", "RChunksExact",
       "RChunksExactMut", "Windows", "ArrayWindows", "ChunkBy", "ChunkByMut",
       "EscapeAscii"].map fun n => .st n 1) ++
       [.en "GetDisjointMutError" 0 ["IndexOutOfBounds", "OverlappingIndices"],
        .tr "SliceIndex" 0, .tr "SlicePattern" 0],
     stdOnly := many .traitItem ["Concat", "Join"] },
   { path := ["str"],
     shared := (["Chars", "CharIndices", "Bytes", "Split", "RSplit", "SplitN", "RSplitN",
       "SplitTerminator", "RSplitTerminator", "SplitInclusive", "SplitWhitespace",
       "SplitAsciiWhitespace", "Lines", "LinesAny", "Matches", "RMatches", "MatchIndices",
       "RMatchIndices", "EncodeUtf16", "EscapeDebug", "EscapeDefault", "EscapeUnicode",
       "Utf8Chunks", "Utf8Chunk"].map fun n => .st n 1) ++
       [.st "Utf8Error" 0, .st "ParseBoolError" 0, .tr "FromStr" 0] },
   { path := ["str", "pattern"],
     shared := [.tr "Pattern" 0, .tr "Searcher" 1, .tr "ReverseSearcher" 1,
       .tr "DoubleEndedSearcher" 1, .st "CharSearcher" 1, .st "CharArraySearcher" 1,
       .st "CharArrayRefSearcher" 2, .st "CharSliceSearcher" 2, .st "CharPredicateSearcher" 1,
       .st "StrSearcher" 2, .en "SearchStep" 0 ["Match", "Reject", "Done"],
       .en "Utf8Pattern" 1 ["StringPattern", "CharPattern"]] },
   { path := ["string"], inCore := false,
     shared := [.st "String" 0, .st "Drain" 1, .st "FromUtf8Error" 0, .st "FromUtf16Error" 0,
       .st "IntoChars" 0, .tr "ToString" 0, .al "ParseError" 0] },
   { path := ["sync"], shared := [.st "Exclusive" 0],
     stdOnly := many .structTy ["Arc", "Weak", "Mutex", "RwLock", "Condvar", "WaitTimeoutResult",
       "Once", "OnceState", "OnceLock", "LazyLock", "Barrier", "BarrierWaitResult",
       "PoisonError", "ReentrantLock", "UniqueArc"] ++
       (["MutexGuard", "MappedMutexGuard", "RwLockReadGuard", "RwLockWriteGuard",
         "MappedRwLockReadGuard", "MappedRwLockWriteGuard", "ReentrantLockGuard"].map
         fun n => .st n 1) ++
       [.en "TryLockError" 0 ["Poisoned", "WouldBlock"], .al "LockResult" 0,
        .al "TryLockResult" 0] },
   { path := ["sync", "atomic"],
     shared := many .structTy ["AtomicBool", "AtomicI8", "AtomicI16", "AtomicI32", "AtomicI64",
       "AtomicIsize", "AtomicU8", "AtomicU16", "AtomicU32", "AtomicU64", "AtomicUsize",
       "AtomicPtr"] ++
       [.en "Ordering" 0 ["Relaxed", "Release", "Acquire", "AcqRel", "SeqCst"], .al "Atomic" 0,
        .tr "AtomicPrimitive" 0] },
   { path := ["sync", "mpsc"], inCore := false,
     shared := many .structTy ["Sender", "SyncSender", "Receiver", "SendError", "RecvError",
       "IntoIter"] ++
       [.en "TryRecvError" 0 ["Empty", "Disconnected"],
        .en "RecvTimeoutError" 0 ["Timeout", "Disconnected"],
        .en "TrySendError" 0 ["Full", "Disconnected"],
        .en "SendTimeoutError" 0 ["Timeout", "Disconnected"], .st "Iter" 1, .st "TryIter" 1] },
   { path := ["sync", "mpmc"], inCore := false,
     shared := many .structTy ["Sender", "Receiver", "SendError", "RecvError", "IntoIter"] ++
       [.en "TryRecvError" 0 ["Empty", "Disconnected"],
        .en "RecvTimeoutError" 0 ["Timeout", "Disconnected"],
        .en "TrySendError" 0 ["Full", "Disconnected"],
        .en "SendTimeoutError" 0 ["Timeout", "Disconnected"], .st "Iter" 1, .st "TryIter" 1] },
   { path := ["sync", "poison"], inCore := false,
     shared := many .structTy ["Mutex", "RwLock", "Condvar", "WaitTimeoutResult", "Once",
       "OnceState", "PoisonError"] ++
       (["MutexGuard", "MappedMutexGuard", "RwLockReadGuard", "RwLockWriteGuard",
         "MappedRwLockReadGuard", "MappedRwLockWriteGuard"].map fun n => .st n 1) ++
       [.en "TryLockError" 0 ["Poisoned", "WouldBlock"], .al "LockResult" 0,
        .al "TryLockResult" 0] },
   { path := ["sync", "nonpoison"], inCore := false,
     shared := many .structTy ["Mutex", "RwLock", "Condvar", "WouldBlock"] ++
       (["MutexGuard", "MappedMutexGuard", "RwLockReadGuard", "RwLockWriteGuard",
         "MappedRwLockReadGuard", "MappedRwLockWriteGuard"].map fun n => .st n 1) ++
       [.al "TryLockResult" 0] },
   { path := ["task"],
     shared := [.st "Context" 1, .st "ContextBuilder" 1, .en "Poll" 0 ["Ready", "Pending"],
       .st "Waker" 0, .st "RawWaker" 0, .st "RawWakerVTable" 0, .st "LocalWaker" 0],
     stdOnly := many .traitItem ["Wake", "LocalWake"] },
   { path := ["thread"], inCore := false,
     shared := many .structTy ["JoinHandle", "Thread", "ThreadId", "LocalKey", "Builder",
       "AccessError"] ++ [.st "Scope" 2, .st "ScopedJoinHandle" 1, .al "Result" 0] },
   { path := ["time"], shared := many .structTy ["Duration", "TryFromFloatSecsError"],
     stdOnly := many .structTy ["Instant", "SystemTime", "SystemTimeError"] },
   { path := ["u8"] }, { path := ["u16"] }, { path := ["u32"] }, { path := ["u64"] },
   { path := ["u128"] }, { path := ["usize"] },
   { path := ["ub_checks"], inStd := false },
   { path := ["unicode"], inStd := false },
   { path := ["unsafe_binder"] },
   { path := ["vec"], inCore := false,
     shared := [.st "Vec" 0, .st "IntoIter" 0, .st "Drain" 1, .st "Splice" 1, .st "ExtractIf" 1,
       .st "PeekMut" 1] }]

open StdItem in
def collectionModules : List StdModule :=
  [{ path := ["collections", "hash_map"], inCore := false,
     shared := many .structTy ["HashMap", "IntoIter", "IntoKeys", "IntoValues", "RandomState",
       "DefaultHasher"] ++
       [.en "Entry" 1 ["Occupied", "Vacant"]] ++
       (["OccupiedEntry", "VacantEntry", "OccupiedError", "Iter", "IterMut", "Keys", "Values",
         "ValuesMut", "Drain", "ExtractIf"].map fun n => .st n 1) },
   { path := ["collections", "hash_set"], inCore := false,
     shared := many .structTy ["HashSet", "IntoIter"] ++ [.en "Entry" 1 ["Occupied", "Vacant"]] ++
       (["Iter", "Drain", "ExtractIf", "Difference", "Intersection", "SymmetricDifference",
         "Union", "OccupiedEntry", "VacantEntry"].map fun n => .st n 1) },
   { path := ["collections", "btree_map"], inCore := false,
     shared := many .structTy ["BTreeMap", "IntoIter", "IntoKeys", "IntoValues",
       "UnorderedKeyError"] ++ [.en "Entry" 1 ["Occupied", "Vacant"]] ++
       (["OccupiedEntry", "VacantEntry", "OccupiedError", "Iter", "IterMut", "Keys", "Values",
         "ValuesMut", "Range", "RangeMut", "ExtractIf", "Cursor", "CursorMut",
         "CursorMutKey"].map fun n => .st n 1) },
   { path := ["collections", "btree_set"], inCore := false,
     shared := many .structTy ["BTreeSet", "IntoIter", "UnorderedKeyError"] ++
       [.en "Entry" 1 ["Occupied", "Vacant"]] ++
       (["Iter", "Range", "Difference", "Intersection", "SymmetricDifference", "Union",
         "ExtractIf", "Cursor", "CursorMut", "CursorMutKey", "OccupiedEntry",
         "VacantEntry"].map fun n => .st n 1) },
   { path := ["collections", "binary_heap"], inCore := false,
     shared := many .structTy ["BinaryHeap", "IntoIter", "IntoIterSorted"] ++
       (["PeekMut", "Iter", "Drain", "DrainSorted"].map fun n => .st n 1) },
   { path := ["collections", "linked_list"], inCore := false,
     shared := many .structTy ["LinkedList", "IntoIter"] ++
       (["Iter", "IterMut", "Cursor", "CursorMut", "ExtractIf"].map fun n => .st n 1) },
   { path := ["collections", "vec_deque"], inCore := false,
     shared := many .structTy ["VecDeque", "IntoIter"] ++
       (["Iter", "IterMut", "Drain", "ExtractIf"].map fun n => .st n 1) }]

def stdModules : List StdModule := rootModulesA ++ rootModulesB ++ collectionModules

def stdModule? (core : Bool) (path : List String) : Option StdModule :=
  stdModules.find? fun m => m.path == path && m.inCrate core

/-- What a name denotes in a module of the standard library, as far as paths are concerned: an
item, something that is not listed (and so left alone), or nothing. -/
inductive StdLookup where
  | item (i : StdItem)
  | unlisted
  | missing

/-- Looks a name up in the module at `path` of a crate, `core` or else `std`: a submodule, then an
item. -/
def stdLookup (core : Bool) (path : List String) (name : String) : StdLookup :=
  match stdModule? core (path ++ [name]) with
  | some _ => .item { name, entity := .module }
  | none => match stdModule? core path with
    | some m =>
      if m.unlisted then .unlisted
      else match (m.items core).find? (·.name == name) with
        | some i => .item i
        | none => .missing
    | none => if path.isEmpty then .missing else .unlisted

/-- The types and traits of the prelude of the code's edition, 2018. -/
def preludeTypes : List StdItem := preludeShared ++ preludeStd

def preludeValues : List String := ["Some", "None", "Ok", "Err", "drop"]

def preludeValueDescr (name : String) : String :=
  if name == "None" then "unit variant" else if name == "drop" then "function" else "tuple variant"

/-- The crates every path may start from. -/
def externCrates : List String := ["std", "core"]

def knownMacros : List String :=
  ["assert", "assert_eq", "assert_ne", "cfg", "column", "compile_error", "concat", "dbg",
   "debug_assert", "debug_assert_eq", "debug_assert_ne", "env", "eprint", "eprintln", "file",
   "format", "format_args", "include", "include_bytes", "include_str", "line", "matches",
   "module_path", "option_env", "panic", "print", "println", "stringify", "thread_local", "todo",
   "unimplemented", "unreachable", "vec", "write", "writeln", "is_x86_feature_detected",
   "concat_idents", "trace_macros", "log_syntax", "asm", "global_asm", "const_format_args"]

end LoxFront.Code
