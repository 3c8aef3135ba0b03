import Rulebook.Value

/-!
# What values of the language itself have

The attributes that numbers, texts, collections and dates have without being declared: methods, and
facts such as the numerator of a number or the year of a date. Classes of the language answer for
the same names.

* `ClassInfo.equipment?`: the names that a class of the language gives its values.
* `Value.facts`: what can be read from a value besides methods.
-/

namespace Rulebook

/-- What a class gives its values: the names of their methods, and of what else they have. -/
structure Equipment where
  methods : List String
  facts : List String

namespace Equipment

/-! ## Methods that classes share -/

def arithmetic : List String :=
  ["__abs__", "__add__", "__bool__", "__mul__", "__neg__", "__pos__", "__pow__", "__radd__",
    "__rmul__", "__rpow__", "__rsub__", "__rtruediv__", "__sub__", "__truediv__", "conjugate"]

def realArithmetic : List String :=
  ["__ceil__", "__divmod__", "__float__", "__floor__", "__floordiv__", "__int__", "__mod__",
    "__rdivmod__", "__rfloordiv__", "__rmod__", "__round__", "__trunc__", "as_integer_ratio"]

def sequence : List String :=
  ["__add__", "__contains__", "__getitem__", "__iter__", "__len__", "__mul__", "__rmul__", "count",
    "index"]

def textual : List String :=
  ["__getnewargs__", "__mod__", "__rmod__", "capitalize", "center", "endswith", "expandtabs",
    "find", "isalnum", "isalpha", "isascii", "isdigit", "islower", "isspace", "istitle", "isupper",
    "join", "ljust", "lower", "lstrip", "maketrans", "partition", "removeprefix", "removesuffix",
    "replace", "rfind", "rindex", "rjust", "rpartition", "rsplit", "rstrip", "split", "splitlines",
    "startswith", "strip", "swapcase", "title", "translate", "upper", "zfill"]

def calendar : List String :=
  ["__add__", "__radd__", "__rsub__", "__sub__", "ctime", "fromisocalendar", "fromisoformat",
    "fromordinal", "fromtimestamp", "isocalendar", "isoformat", "isoweekday", "replace", "strftime",
    "timetuple", "today", "toordinal", "weekday"]

/-! ## Classes -/

def ofInt : Equipment where
  methods := arithmetic ++ realArithmetic ++
    ["__and__", "__getnewargs__", "__index__", "__invert__", "__lshift__", "__or__", "__rand__",
      "__rlshift__", "__ror__", "__rrshift__", "__rshift__", "__rxor__", "__xor__", "bit_count",
      "bit_length", "from_bytes", "to_bytes"]
  facts := ["denominator", "imag", "numerator", "real"]

def ofFloat : Equipment where
  methods := arithmetic ++ realArithmetic ++
    ["__getformat__", "__getnewargs__", "fromhex", "hex", "is_integer"]
  facts := ["imag", "real"]

def ofComplex : Equipment where
  methods := arithmetic ++ ["__complex__", "__getnewargs__"]
  facts := ["imag", "real"]

def ofDecimal : Equipment where
  methods := arithmetic ++ realArithmetic ++
    ["__complex__", "__copy__", "__deepcopy__", "adjusted", "as_tuple", "canonical", "compare",
      "compare_signal", "compare_total", "compare_total_mag", "copy_abs", "copy_negate",
      "copy_sign", "exp", "fma", "from_float", "is_canonical", "is_finite", "is_infinite",
      "is_nan", "is_normal", "is_qnan", "is_signed", "is_snan", "is_subnormal", "is_zero", "ln",
      "log10", "logb", "logical_and", "logical_invert", "logical_or", "logical_xor", "max",
      "max_mag", "min", "min_mag", "next_minus", "next_plus", "next_toward", "normalize",
      "number_class", "quantize", "radix", "remainder_near", "rotate", "same_quantum", "scaleb",
      "shift", "sqrt", "to_eng_string", "to_integral", "to_integral_exact", "to_integral_value"]
  facts := ["imag", "real"]

def ofFraction : Equipment where
  methods := arithmetic ++ realArithmetic ++
    ["__complex__", "__copy__", "__deepcopy__", "_add", "_div", "_divmod", "_floordiv", "_mod",
      "_mul", "_operator_fallbacks", "_richcmp", "_sub", "from_decimal", "from_float",
      "limit_denominator"]
  facts := ["__abstractmethods__", "__slots__", "_abc_impl", "_denominator", "_numerator",
    "denominator", "imag", "numerator", "real"]

def ofStr : Equipment where
  methods := sequence ++ textual ++
    ["casefold", "encode", "format", "format_map", "isdecimal", "isidentifier", "isnumeric",
      "isprintable"]
  facts := []

def ofBytes : Equipment where
  methods := sequence ++ textual ++ ["__bytes__", "decode", "fromhex", "hex"]
  facts := []

def ofList : Equipment where
  methods := sequence ++
    ["__class_getitem__", "__delitem__", "__iadd__", "__imul__", "__reversed__", "__setitem__",
      "append", "clear", "copy", "extend", "insert", "pop", "remove", "reverse", "sort"]
  facts := []

def ofTuple : Equipment where
  methods := sequence ++ ["__class_getitem__", "__getnewargs__"]
  facts := []

def ofSet : Equipment where
  methods :=
    ["__and__", "__class_getitem__", "__contains__", "__iand__", "__ior__", "__isub__", "__iter__",
      "__ixor__", "__len__", "__or__", "__rand__", "__ror__", "__rsub__", "__rxor__", "__sub__",
      "__xor__", "add", "clear", "copy", "difference", "difference_update", "discard",
      "intersection", "intersection_update", "isdisjoint", "issubset", "issuperset", "pop",
      "remove", "symmetric_difference", "symmetric_difference_update", "union", "update"]
  facts := []

def ofDict : Equipment where
  methods :=
    ["__class_getitem__", "__contains__", "__delitem__", "__getitem__", "__ior__", "__iter__",
      "__len__", "__or__", "__reversed__", "__ror__", "__setitem__", "clear", "copy", "fromkeys",
      "get", "items", "keys", "pop", "popitem", "setdefault", "update", "values"]
  facts := []

def ofDate : Equipment where
  methods := calendar
  facts := ["day", "max", "min", "month", "resolution", "year"]

def ofDateTime : Equipment where
  methods := calendar ++
    ["astimezone", "combine", "date", "dst", "now", "strptime", "time", "timestamp", "timetz",
      "tzname", "utcfromtimestamp", "utcnow", "utcoffset", "utctimetuple"]
  facts := ["day", "fold", "hour", "max", "microsecond", "min", "minute", "month", "resolution",
    "second", "tzinfo", "year"]

end Equipment

namespace ClassInfo

/-- The classes of the language that values are of, with what they give them. -/
def equipped : List (ClassInfo × Equipment) :=
  [(ofInt, .ofInt), (ofStr, .ofStr), (ofFloat, .ofFloat), (ofBool, .ofInt),
    (ofComplex, .ofComplex), (ofBytes, .ofBytes), (ofObject, ⟨[], []⟩),
    (ofNone, ⟨["__bool__"], []⟩), (ofList, .ofList), (ofDict, .ofDict), (ofTuple, .ofTuple),
    (ofSet, .ofSet), (ofDecimal, .ofDecimal), (ofFraction, .ofFraction), (ofDate, .ofDate),
    (ofDateTime, .ofDateTime)]

/-- What a class gives its values, if it is one of the language. -/
def equipment? (c : ClassInfo) : Option Equipment :=
  (equipped.find? (·.1.id == c.id)).map Prod.snd

/-- The names of the methods that a class of the language gives its values. -/
def nativeMethods (c : ClassInfo) : List String := (c.equipment?.map (·.methods)).getD []

/-- The names of what a class of the language gives its values besides methods. -/
def nativeFacts (c : ClassInfo) : List String := (c.equipment?.map (·.facts)).getD []

/-- Whether the values of a class of the language can be changed, and so cannot be keys. -/
def isChangeable (c : ClassInfo) : Bool := [ofList.id, ofDict.id, ofSet.id].contains c.id

end ClassInfo

namespace PatternFlags

/-- The number that stands for the options of a text pattern. -/
def number (f : PatternFlags) : Nat :=
  (if f.ignoreCase then 2 else 0) + (if f.multiline then 8 else 0) + (if f.dotAll then 16 else 0) +
    (if f.verbose then 64 else 0) + (if f.ascii then 256 else 32)

end PatternFlags

namespace Value

/-- The class of a value of the language. -/
def nativeClass? : Value → Option ClassInfo
  | .none => some .ofNone
  | .bool _ => some .ofBool
  | .int _ => some .ofInt
  | .float _ => some .ofFloat
  | .decimal _ => some .ofDecimal
  | .fraction _ _ => some .ofFraction
  | .complex _ _ => some .ofComplex
  | .str _ => some .ofStr
  | .bytes _ => some .ofBytes
  | .date _ => some .ofDate
  | .datetime _ => some .ofDateTime
  | .list _ => some .ofList
  | .tuple _ => some .ofTuple
  | .set _ => some .ofSet
  | .dict _ => some .ofDict
  | _ => Option.none

/-- The names of the methods of a value of the language. -/
def nativeMethods : Value → List String
  | .iterator _ _ => ["__iter__", "__length_hint__", "__next__", "__setstate__"]
  | .pattern _ _ =>
    ["__class_getitem__", "__copy__", "__deepcopy__", "findall", "finditer", "fullmatch", "match",
      "scanner", "search", "split", "sub", "subn"]
  | .callable _ | .method _ => ["__call__"]
  | .pending _ _ => ["__await__", "close", "send", "throw"]
  | .property _ _ _ => ["of", "read"]
  | v => (v.nativeClass?.map (·.nativeMethods)).getD []

/-- Whether the language has a description of the values of the class of a value. -/
def isDescribed : Value → Bool
  | .none | .iterator _ _ | .blank _ | .callable _ | .pending _ _ => false
  | _ => true

/-- A declared type as a value. -/
def ofDeclaredType : DeclaredType → Value
  | .nothing => .none
  | .class c => .class c []
  | _ => .blank 0

private def wholeFacts (n : Int) : List (String × Value) :=
  [("real", .int n), ("imag", .int 0), ("numerator", .int n), ("denominator", .int 1)]

private def dayFacts (d : Date) : List (String × Value) :=
  let (year, month, day) := d.ymd
  [("year", .int year), ("month", .int month), ("day", .int day), ("resolution", .blank 0)]

private def firstDay : Date := ⟨0, by decide⟩

private def lastDay : Date := ⟨calendarDays - 1, by decide⟩

private def firstMoment : DateTime := ⟨0, Option.none, by decide⟩

private def lastMoment : DateTime := ⟨calendarDays * microsPerDay - 1, Option.none, by decide⟩

/-- What can be read from a value of the language besides methods; a blank stands for what is no
value here. -/
def facts : Value → List (String × Value)
  | .bool b => wholeFacts (if b then 1 else 0)
  | .int n => wholeFacts n
  | .float x => [("real", .float x), ("imag", .float (.ofInt 0))]
  | .complex re im => [("real", .float re), ("imag", .float im)]
  | .decimal d =>
    [("real", .decimal d), ("imag", .decimal (.finite false 0 0)), ("__module__", .str "decimal")]
  | .fraction num den =>
    [("real", .fraction num den), ("imag", .int 0), ("numerator", .int num),
      ("denominator", .int den), ("_numerator", .int num), ("_denominator", .int den),
      ("__slots__", .tuple [.str "_numerator", .str "_denominator"]), ("_abc_impl", .blank 0),
      ("__abstractmethods__", .blank 0), ("__module__", .str "fractions")]
  | .date d => dayFacts d ++ [("min", .date firstDay), ("max", .date lastDay)]
  | .datetime t =>
    let seconds := t.timeOfDay / 1000000
    dayFacts t.date ++
      [("hour", .int (seconds / 3600)), ("minute", .int (seconds / 60 % 60)),
        ("second", .int (seconds % 60)), ("microsecond", .int (t.timeOfDay % 1000000)),
        ("fold", .int 0), ("tzinfo", if t.offset.isSome then .blank 0 else .none),
        ("min", .datetime firstMoment), ("max", .datetime lastMoment)]
  | .pattern source flags =>
    [("pattern", .str source), ("flags", .int flags.number), ("groups", .blank 0),
      ("groupindex", .blank 0), ("__module__", .str "re")]
  | .callable f => (f.name.map fun name => ("__name__", .str name)).toList
  | .method name => [("__name__", .str name)]
  | .property name accessor declared =>
    [("name", name), ("accessor", accessor), ("annotation", ofDeclaredType declared)]
  | _ => []

end Value

end Rulebook
