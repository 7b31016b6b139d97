import SequenceApi.Settings.Template.Kind
import SequenceApi.Settings.Template.Operator
import SequenceApi.Text.Scan

/-!
# Catalogs

What the values of a kind know is listed in the catalog of the kind: operators, other operations,
properties, fields and notes, in a fixed order, each with how it is called and what it does.

## Main definitions

* `Template.Form`: the forms of members
* `Template.Entry`: one line of a catalog
* `Template.Kind.description?`, `Template.Kind.signature?`: what a kind says about itself
* `Template.Kind.entries`: the catalog of a kind
-/

namespace SequenceApi.Template

open Text

/-- The forms of members. -/
inductive Form where
  | operator
  | operation
  | kindOperation
  | freeOperation
  /-- The operation that makes new values of a kind. -/
  | maker
  | property
  | field
  /-- A text that is the same for all values, or none. -/
  | note (text : Option String)
  deriving DecidableEq, Repr

/-- A line of a catalog: a name, what it stands for, how it is called and what it does. -/
structure Entry where
  name : String
  form : Form
  signature : Option String := none
  description : Option String := none
  deriving DecidableEq, Repr

/-- A text of several lines. -/
def described (lines : List String) : Option String :=
  some (joined "\n" lines)

/-- A line with a description, and with how the member is called if that is known. -/
def entry (form : Form) (name : String) (signature : Option String) (lines : List String) : Entry :=
  { name, form, signature, description := described lines }

/-- A line without a description. -/
def bare (form : Form) (name : String) : Entry :=
  { name, form }

/-- Operators by their names. -/
def operators (names : List String) : List Entry :=
  names.map fun name =>
    let known := operatorText name
    { name, form := .operator, signature := known.map (·.1), description := known.map (·.2) }

/-- Properties without a description. -/
def properties (names : List String) : List Entry :=
  names.map (bare .property)

/-- Fields without a description. -/
def fields (names : List String) : List Entry :=
  names.map (bare .field)

/-- A note. -/
def note (name : String) (text : Option String) : Entry :=
  bare (.note text) name

/-- The operation that makes new values. -/
def maker : Entry :=
  entry .maker "__new__" (some "($type, *args, **kwargs)")
    ["Create and return a new object.  See help(type) for accurate signature."]

/-- What a kind says about its values. -/
def Kind.description? : Kind → Option String
  | .anything => described [
      "The base class of the class hierarchy.", "",
      "When called, it accepts no arguments and returns a new featureless",
      "instance that has no instance attributes and cannot be given any.", ""]
  | .kind => described [
      "type(object) -> the object's type", "type(name, bases, dict, **kwds) -> a new type"]
  | .text => described [
      "str(object='') -> str", "str(bytes_or_buffer[, encoding[, errors]]) -> str", "",
      "Create a new string object from the given object. If encoding or",
      "errors is specified, then the object must expose a data buffer",
      "that will be decoded using the given encoding and error handler.",
      "Otherwise, returns the result of object.__str__() (if defined)", "or repr(object).",
      "encoding defaults to sys.getdefaultencoding().", "errors defaults to 'strict'."]
  | .integer => described [
      "int([x]) -> integer", "int(x, base=10) -> integer", "",
      "Convert a number or string to an integer, or return 0 if no arguments",
      "are given.  If x is a number, return x.__int__().  For floating point",
      "numbers, this truncates towards zero.", "",
      "If x is not a number or if base is given, then x must be a string,",
      "bytes, or bytearray instance representing an integer literal in the",
      "given base.  The literal can be preceded by '+' or '-' and be surrounded",
      "by whitespace.  The base defaults to 10.  Valid bases are 0 and 2-36.",
      "Base 0 means to interpret the base from the string as an integer literal.",
      ">>> int('0b100', base=0)", "4"]
  | .truth => described [
      "bool(x) -> bool", "", "Returns True when the argument x is true, False otherwise.",
      "The builtins True and False are the only two instances of the class bool.",
      "The class bool is a subclass of the class int, and cannot be subclassed."]
  | .sequence => described [
      "Built-in immutable sequence.", "",
      "If no argument is given, the constructor returns an empty tuple.",
      "If iterable is specified the tuple is initialized from iterable's items.", "",
      "If the argument is a tuple, the return value is the same object."]
  | .dictionary => described [
      "dict() -> new empty dictionary",
      "dict(mapping) -> new dictionary initialized from a mapping object's",
      "    (key, value) pairs", "dict(iterable) -> new dictionary initialized as if via:",
      "    d = \x7b\x7d", "    for k, v in iterable:", "        d[k] = v",
      "dict(**kwargs) -> new dictionary initialized with the name=value pairs",
      "    in the keyword argument list.  For example:  dict(one=1, two=2)"]
  | .freeOperation => described [
      "staticmethod(function) -> method", "", "Convert a function to be a static method.", "",
      "A static method does not receive an implicit first argument.",
      "To declare a static method, use this idiom:", "", "     class C:",
      "         @staticmethod", "         def f(arg1, arg2, argN):", "             ...", "",
      "It can be called either on the class (e.g. C.f()) or on an instance",
      "(e.g. C().f()). Both the class and the instance are ignored, and",
      "neither is passed implicitly as the first argument to the method.", "",
      "Static methods in Python are similar to those found in Java or C++.",
      "For a more advanced concept, see the classmethod builtin."]
  | .applied => described [
      "Represent a PEP 585 generic type", "",
      "E.g. for t = list[int], t.__origin__ is list and t.__args__ is (int,)."]
  | _ => none

/-- How a kind is called to make a value. -/
def Kind.signature? : Kind → Option String
  | .anything => some "()"
  | .sequence => some "(iterable=(), /)"
  | _ => none

/-- The catalog of everything. -/
def anythingEntries : List Entry :=
  [maker] ++
  operators [
    "__repr__", "__hash__", "__str__", "__getattribute__", "__setattr__", "__delattr__",
    "__lt__", "__le__", "__eq__", "__ne__", "__gt__", "__ge__", "__init__"] ++
  [
    entry .operation "__reduce_ex__" (some "($self, protocol, /)") ["Helper for pickle."],
    entry .operation "__reduce__" (some "($self, /)") ["Helper for pickle."],
    entry .operation "__getstate__" (some "($self, /)") ["Helper for pickle."],
    entry .kindOperation "__subclasshook__" none [
      "Abstract classes can override this to customize issubclass().", "",
      "This is invoked early on by abc.ABCMeta.__subclasscheck__().",
      "It should return True, False or NotImplemented.  If it returns",
      "NotImplemented, the normal algorithm is used.  Otherwise, it",
      "overrides the normal algorithm (and the outcome is cached).", ""],
    entry .kindOperation "__init_subclass__" none [
      "This method is called when a class is subclassed.", "",
      "The default implementation does nothing. It may be", "overridden to extend subclasses.",
      ""],
    entry .operation "__format__" (some "($self, format_spec, /)") ["Default object formatter."],
    entry .operation "__sizeof__" (some "($self, /)") ["Size of object in memory, in bytes."],
    entry .operation "__dir__" (some "($self, /)") ["Default dir() implementation."],
    entry .property "__class__" none ["the object's class"],
    note "__doc__" (Kind.description? .anything)]

/-- The catalog of kinds. -/
def kindEntries : List Entry :=
  [maker] ++
  operators [
    "__repr__", "__call__", "__getattribute__", "__setattr__", "__delattr__", "__init__",
    "__or__", "__ror__"] ++
  [
    entry .operation "mro" (some "($self, /)") ["Return a type's method resolution order."],
    entry .operation "__subclasses__" (some "($self, /)") [
      "Return a list of immediate subclasses."],
    entry .kindOperation "__prepare__" none [
      "__prepare__() -> dict", "used to create the namespace for the class statement"],
    entry .operation "__instancecheck__" (some "($self, instance, /)") [
      "Check if an object is an instance."],
    entry .operation "__subclasscheck__" (some "($self, subclass, /)") [
      "Check if a class is a subclass."],
    entry .operation "__dir__" (some "($self, /)") [
      "Specialized __dir__ implementation for types."],
    entry .operation "__sizeof__" (some "($self, /)") [
      "Return memory consumption of the type object."]] ++
  fields [
    "__basicsize__", "__itemsize__", "__flags__", "__weakrefoffset__", "__base__",
    "__dictoffset__", "__mro__"] ++
  properties [
    "__name__", "__qualname__", "__bases__", "__module__", "__abstractmethods__", "__dict__",
    "__doc__", "__text_signature__", "__annotations__"]

/-- The catalog of texts. -/
def textEntries : List Entry :=
  [maker] ++
  operators [
    "__repr__", "__hash__", "__str__", "__getattribute__", "__lt__", "__le__", "__eq__",
    "__ne__", "__gt__", "__ge__", "__iter__", "__mod__", "__rmod__", "__len__", "__getitem__",
    "__add__", "__mul__", "__rmul__", "__contains__"] ++
  [
    entry .operation "encode" (some "($self, /, encoding='utf-8', errors='strict')") [
      "Encode the string using the codec registered for encoding.", "", "  encoding",
      "    The encoding in which to encode the string.", "  errors",
      "    The error handling scheme to use for encoding errors.",
      "    The default is 'strict' meaning that encoding errors raise a",
      "    UnicodeEncodeError.  Other possible values are 'ignore', 'replace' and",
      "    'xmlcharrefreplace' as well as any other name registered with",
      "    codecs.register_error that can handle UnicodeEncodeErrors."],
    entry .operation "replace" (some "($self, old, new, count=-1, /)") [
      "Return a copy with all occurrences of substring old replaced by new.", "", "  count",
      "    Maximum number of occurrences to replace.",
      "    -1 (the default value) means replace all occurrences.", "",
      "If the optional argument count is given, only the first count occurrences are",
      "replaced."],
    entry .operation "split" (some "($self, /, sep=None, maxsplit=-1)") [
      "Return a list of the substrings in the string, using sep as the separator string.", "",
      "  sep", "    The separator used to split the string.", "",
      "    When set to None (the default value), will split on any whitespace",
      "    character (including \\n \\r \\t \\f and spaces) and will discard",
      "    empty strings from the result.", "  maxsplit", "    Maximum number of splits.",
      "    -1 (the default value) means no limit.", "",
      "Splitting starts at the front of the string and works to the end.", "",
      "Note, str.split() is mainly useful for data that has been intentionally",
      "delimited.  With natural text that includes punctuation, consider using",
      "the regular expression module."],
    entry .operation "rsplit" (some "($self, /, sep=None, maxsplit=-1)") [
      "Return a list of the substrings in the string, using sep as the separator string.", "",
      "  sep", "    The separator used to split the string.", "",
      "    When set to None (the default value), will split on any whitespace",
      "    character (including \\n \\r \\t \\f and spaces) and will discard",
      "    empty strings from the result.", "  maxsplit", "    Maximum number of splits.",
      "    -1 (the default value) means no limit.", "",
      "Splitting starts at the end of the string and works to the front."],
    entry .operation "join" (some "($self, iterable, /)") [
      "Concatenate any number of strings.", "",
      "The string whose method is called is inserted in between each given string.",
      "The result is returned as a new string.", "",
      "Example: '.'.join(['ab', 'pq', 'rs']) -> 'ab.pq.rs'"],
    entry .operation "capitalize" (some "($self, /)") [
      "Return a capitalized version of the string.", "",
      "More specifically, make the first character have upper case and the rest lower", "case."],
    entry .operation "casefold" (some "($self, /)") [
      "Return a version of the string suitable for caseless comparisons."],
    entry .operation "title" (some "($self, /)") [
      "Return a version of the string where each word is titlecased.", "",
      "More specifically, words start with uppercased characters and all remaining",
      "cased characters have lower case."],
    entry .operation "center" (some "($self, width, fillchar=' ', /)") [
      "Return a centered string of length width.", "",
      "Padding is done using the specified fill character (default is a space)."],
    entry .operation "count" none [
      "S.count(sub[, start[, end]]) -> int", "",
      "Return the number of non-overlapping occurrences of substring sub in",
      "string S[start:end].  Optional arguments start and end are",
      "interpreted as in slice notation."],
    entry .operation "expandtabs" (some "($self, /, tabsize=8)") [
      "Return a copy where all tab characters are expanded using spaces.", "",
      "If tabsize is not given, a tab size of 8 characters is assumed."],
    entry .operation "find" none [
      "S.find(sub[, start[, end]]) -> int", "",
      "Return the lowest index in S where substring sub is found,",
      "such that sub is contained within S[start:end].  Optional",
      "arguments start and end are interpreted as in slice notation.", "",
      "Return -1 on failure."],
    entry .operation "partition" (some "($self, sep, /)") [
      "Partition the string into three parts using the given separator.", "",
      "This will search for the separator in the string.  If the separator is found,",
      "returns a 3-tuple containing the part before the separator, the separator",
      "itself, and the part after it.", "",
      "If the separator is not found, returns a 3-tuple containing the original string",
      "and two empty strings."],
    entry .operation "index" none [
      "S.index(sub[, start[, end]]) -> int", "",
      "Return the lowest index in S where substring sub is found,",
      "such that sub is contained within S[start:end].  Optional",
      "arguments start and end are interpreted as in slice notation.", "",
      "Raises ValueError when the substring is not found."],
    entry .operation "ljust" (some "($self, width, fillchar=' ', /)") [
      "Return a left-justified string of length width.", "",
      "Padding is done using the specified fill character (default is a space)."],
    entry .operation "lower" (some "($self, /)") [
      "Return a copy of the string converted to lowercase."],
    entry .operation "lstrip" (some "($self, chars=None, /)") [
      "Return a copy of the string with leading whitespace removed.", "",
      "If chars is given and not None, remove characters in chars instead."],
    entry .operation "rfind" none [
      "S.rfind(sub[, start[, end]]) -> int", "",
      "Return the highest index in S where substring sub is found,",
      "such that sub is contained within S[start:end].  Optional",
      "arguments start and end are interpreted as in slice notation.", "",
      "Return -1 on failure."],
    entry .operation "rindex" none [
      "S.rindex(sub[, start[, end]]) -> int", "",
      "Return the highest index in S where substring sub is found,",
      "such that sub is contained within S[start:end].  Optional",
      "arguments start and end are interpreted as in slice notation.", "",
      "Raises ValueError when the substring is not found."],
    entry .operation "rjust" (some "($self, width, fillchar=' ', /)") [
      "Return a right-justified string of length width.", "",
      "Padding is done using the specified fill character (default is a space)."],
    entry .operation "rstrip" (some "($self, chars=None, /)") [
      "Return a copy of the string with trailing whitespace removed.", "",
      "If chars is given and not None, remove characters in chars instead."],
    entry .operation "rpartition" (some "($self, sep, /)") [
      "Partition the string into three parts using the given separator.", "",
      "This will search for the separator in the string, starting at the end. If",
      "the separator is found, returns a 3-tuple containing the part before the",
      "separator, the separator itself, and the part after it.", "",
      "If the separator is not found, returns a 3-tuple containing two empty strings",
      "and the original string."],
    entry .operation "splitlines" (some "($self, /, keepends=False)") [
      "Return a list of the lines in the string, breaking at line boundaries.", "",
      "Line breaks are not included in the resulting list unless keepends is given and", "true."],
    entry .operation "strip" (some "($self, chars=None, /)") [
      "Return a copy of the string with leading and trailing whitespace removed.", "",
      "If chars is given and not None, remove characters in chars instead."],
    entry .operation "swapcase" (some "($self, /)") [
      "Convert uppercase characters to lowercase and lowercase characters to uppercase."],
    entry .operation "translate" (some "($self, table, /)") [
      "Replace each character in the string using the given translation table.", "", "  table",
      "    Translation table, which must be a mapping of Unicode ordinals to",
      "    Unicode ordinals, strings, or None.", "",
      "The table must implement lookup/indexing via __getitem__, for instance a",
      "dictionary or list.  If this operation raises LookupError, the character is",
      "left untouched.  Characters mapped to None are deleted."],
    entry .operation "upper" (some "($self, /)") [
      "Return a copy of the string converted to uppercase."],
    entry .operation "startswith" none [
      "S.startswith(prefix[, start[, end]]) -> bool", "",
      "Return True if S starts with the specified prefix, False otherwise.",
      "With optional start, test S beginning at that position.",
      "With optional end, stop comparing S at that position.",
      "prefix can also be a tuple of strings to try."],
    entry .operation "endswith" none [
      "S.endswith(suffix[, start[, end]]) -> bool", "",
      "Return True if S ends with the specified suffix, False otherwise.",
      "With optional start, test S beginning at that position.",
      "With optional end, stop comparing S at that position.",
      "suffix can also be a tuple of strings to try."],
    entry .operation "removeprefix" (some "($self, prefix, /)") [
      "Return a str with the given prefix string removed if present.", "",
      "If the string starts with the prefix string, return string[len(prefix):].",
      "Otherwise, return a copy of the original string."],
    entry .operation "removesuffix" (some "($self, suffix, /)") [
      "Return a str with the given suffix string removed if present.", "",
      "If the string ends with the suffix string and that suffix is not empty,",
      "return string[:-len(suffix)]. Otherwise, return a copy of the original", "string."],
    entry .operation "isascii" (some "($self, /)") [
      "Return True if all characters in the string are ASCII, False otherwise.", "",
      "ASCII characters have code points in the range U+0000-U+007F.",
      "Empty string is ASCII too."],
    entry .operation "islower" (some "($self, /)") [
      "Return True if the string is a lowercase string, False otherwise.", "",
      "A string is lowercase if all cased characters in the string are lowercase and",
      "there is at least one cased character in the string."],
    entry .operation "isupper" (some "($self, /)") [
      "Return True if the string is an uppercase string, False otherwise.", "",
      "A string is uppercase if all cased characters in the string are uppercase and",
      "there is at least one cased character in the string."],
    entry .operation "istitle" (some "($self, /)") [
      "Return True if the string is a title-cased string, False otherwise.", "",
      "In a title-cased string, upper- and title-case characters may only",
      "follow uncased characters and lowercase characters only cased ones."],
    entry .operation "isspace" (some "($self, /)") [
      "Return True if the string is a whitespace string, False otherwise.", "",
      "A string is whitespace if all characters in the string are whitespace and there",
      "is at least one character in the string."],
    entry .operation "isdecimal" (some "($self, /)") [
      "Return True if the string is a decimal string, False otherwise.", "",
      "A string is a decimal string if all characters in the string are decimal and",
      "there is at least one character in the string."],
    entry .operation "isdigit" (some "($self, /)") [
      "Return True if the string is a digit string, False otherwise.", "",
      "A string is a digit string if all characters in the string are digits and there",
      "is at least one character in the string."],
    entry .operation "isnumeric" (some "($self, /)") [
      "Return True if the string is a numeric string, False otherwise.", "",
      "A string is numeric if all characters in the string are numeric and there is at",
      "least one character in the string."],
    entry .operation "isalpha" (some "($self, /)") [
      "Return True if the string is an alphabetic string, False otherwise.", "",
      "A string is alphabetic if all characters in the string are alphabetic and there",
      "is at least one character in the string."],
    entry .operation "isalnum" (some "($self, /)") [
      "Return True if the string is an alpha-numeric string, False otherwise.", "",
      "A string is alpha-numeric if all characters in the string are alpha-numeric and",
      "there is at least one character in the string."],
    entry .operation "isidentifier" (some "($self, /)") [
      "Return True if the string is a valid Python identifier, False otherwise.", "",
      "Call keyword.iskeyword(s) to test whether string s is a reserved identifier,",
      "such as \"def\" or \"class\"."],
    entry .operation "isprintable" (some "($self, /)") [
      "Return True if the string is printable, False otherwise.", "",
      "A string is printable if all of its characters are considered printable in",
      "repr() or if it is empty."],
    entry .operation "zfill" (some "($self, width, /)") [
      "Pad a numeric string with zeros on the left, to fill a field of the given width.", "",
      "The string is never truncated."],
    entry .operation "format" none [
      "S.format(*args, **kwargs) -> str", "",
      "Return a formatted version of S, using substitutions from args and kwargs.",
      "The substitutions are identified by braces ('\x7b' and '\x7d')."],
    entry .operation "format_map" none [
      "S.format_map(mapping) -> str", "",
      "Return a formatted version of S, using substitutions from mapping.",
      "The substitutions are identified by braces ('\x7b' and '\x7d')."],
    entry .operation "__format__" (some "($self, format_spec, /)") [
      "Return a formatted version of the string as described by format_spec."],
    entry .freeOperation "maketrans" (some "(x, y=<unrepresentable>, z=<unrepresentable>, /)") [
      "Return a translation table usable for str.translate().", "",
      "If there is only one argument, it must be a dictionary mapping Unicode",
      "ordinals (integers) or characters to Unicode ordinals, strings or None.",
      "Character keys will be then converted to ordinals.",
      "If there are two arguments, they must be strings of equal length, and",
      "in the resulting dictionary, each character in x will be mapped to the",
      "character at the same position in y. If there is a third argument, it",
      "must be a string, whose characters will be mapped to None in the result."],
    entry .operation "__sizeof__" (some "($self, /)") [
      "Return the size of the string in memory, in bytes."],
    bare .operation "__getnewargs__",
    note "__doc__" (Kind.description? .text)]

/-- The catalog of integers. -/
def integerEntries : List Entry :=
  [maker] ++
  operators [
    "__repr__", "__hash__", "__getattribute__", "__lt__", "__le__", "__eq__", "__ne__", "__gt__",
    "__ge__", "__add__", "__radd__", "__sub__", "__rsub__", "__mul__", "__rmul__", "__mod__",
    "__rmod__", "__divmod__", "__rdivmod__", "__pow__", "__rpow__", "__neg__", "__pos__",
    "__abs__", "__bool__", "__invert__", "__lshift__", "__rlshift__", "__rshift__",
    "__rrshift__", "__and__", "__rand__", "__xor__", "__rxor__", "__or__", "__ror__", "__int__",
    "__float__", "__floordiv__", "__rfloordiv__", "__truediv__", "__rtruediv__", "__index__"] ++
  [
    entry .operation "conjugate" none ["Returns self, the complex conjugate of any int."],
    entry .operation "bit_length" (some "($self, /)") [
      "Number of bits necessary to represent self in binary.", "", ">>> bin(37)", "'0b100101'",
      ">>> (37).bit_length()", "6"],
    entry .operation "bit_count" (some "($self, /)") [
      "Number of ones in the binary representation of the absolute value of self.", "",
      "Also known as the population count.", "", ">>> bin(13)", "'0b1101'",
      ">>> (13).bit_count()", "3"],
    entry .operation "to_bytes" (some "($self, /, length=1, byteorder='big', *, signed=False)") [
      "Return an array of bytes representing an integer.", "", "  length",
      "    Length of bytes object to use.  An OverflowError is raised if the",
      "    integer is not representable with the given number of bytes.  Default",
      "    is length 1.", "  byteorder",
      "    The byte order used to represent the integer.  If byteorder is 'big',",
      "    the most significant byte is at the beginning of the byte array.  If",
      "    byteorder is 'little', the most significant byte is at the end of the",
      "    byte array.  To request the native byte order of the host system, use",
      "    \x60sys.byteorder' as the byte order value.  Default is to use 'big'.", "  signed",
      "    Determines whether two's complement is used to represent the integer.",
      "    If signed is False and a negative integer is given, an OverflowError",
      "    is raised."],
    entry .kindOperation "from_bytes" (some "($type, /, bytes, byteorder='big', *, signed=False)") [
      "Return the integer represented by the given array of bytes.", "", "  bytes",
      "    Holds the array of bytes to convert.  The argument must either",
      "    support the buffer protocol or be an iterable object producing bytes.",
      "    Bytes and bytearray are examples of built-in objects that support the",
      "    buffer protocol.", "  byteorder",
      "    The byte order used to represent the integer.  If byteorder is 'big',",
      "    the most significant byte is at the beginning of the byte array.  If",
      "    byteorder is 'little', the most significant byte is at the end of the",
      "    byte array.  To request the native byte order of the host system, use",
      "    \x60sys.byteorder' as the byte order value.  Default is to use 'big'.", "  signed",
      "    Indicates whether two's complement is used to represent the integer."],
    entry .operation "as_integer_ratio" (some "($self, /)") [
      "Return integer ratio.", "",
      "Return a pair of integers, whose ratio is exactly equal to the original int",
      "and with a positive denominator.", "", ">>> (10).as_integer_ratio()", "(10, 1)",
      ">>> (-10).as_integer_ratio()", "(-10, 1)", ">>> (0).as_integer_ratio()", "(0, 1)"],
    entry .operation "__trunc__" none ["Truncating an Integral returns itself."],
    entry .operation "__floor__" none ["Flooring an Integral returns itself."],
    entry .operation "__ceil__" none ["Ceiling of an Integral returns itself."],
    entry .operation "__round__" (some "($self, ndigits=<unrepresentable>, /)") [
      "Rounding an Integral returns itself.", "",
      "Rounding with an ndigits argument also returns an integer."],
    { bare .operation "__getnewargs__" with signature := some "($self, /)" },
    { bare .operation "__format__" with signature := some "($self, format_spec, /)" },
    entry .operation "__sizeof__" (some "($self, /)") ["Returns size in memory, in bytes."],
    entry .property "real" none ["the real part of a complex number"],
    entry .property "imag" none ["the imaginary part of a complex number"],
    entry .property "numerator" none ["the numerator of a rational number in lowest terms"],
    entry .property "denominator" none ["the denominator of a rational number in lowest terms"],
    note "__doc__" (Kind.description? .integer)]

/-- The catalog of truth values. -/
def truthEntries : List Entry :=
  [maker] ++
  operators ["__repr__", "__and__", "__rand__", "__xor__", "__rxor__", "__or__", "__ror__"] ++
  [note "__doc__" (Kind.description? .truth)]

/-- The catalog of sequences. -/
def sequenceEntries : List Entry :=
  [maker] ++
  operators [
    "__repr__", "__hash__", "__getattribute__", "__lt__", "__le__", "__eq__", "__ne__", "__gt__",
    "__ge__", "__iter__", "__len__", "__getitem__", "__add__", "__mul__", "__rmul__",
    "__contains__"] ++
  [
    { bare .operation "__getnewargs__" with signature := some "($self, /)" },
    entry .operation "index" (some "($self, value, start=0, stop=sys.maxsize, /)") [
      "Return first index of value.", "", "Raises ValueError if the value is not present."],
    entry .operation "count" (some "($self, value, /)") [
      "Return number of occurrences of value."],
    entry .kindOperation "__class_getitem__" none ["See PEP 585"],
    note "__doc__" (Kind.description? .sequence)]

/-- The catalog of dictionaries. -/
def dictionaryEntries : List Entry :=
  [maker] ++
  operators ["__repr__"] ++
  [note "__hash__" none] ++
  operators [
    "__getattribute__", "__lt__", "__le__", "__eq__", "__ne__", "__gt__", "__ge__", "__iter__",
    "__init__", "__or__", "__ror__", "__ior__", "__len__"] ++
  [entry .operation "__getitem__" none ["x.__getitem__(y) <==> x[y]"]] ++
  operators ["__setitem__", "__delitem__"] ++
  [
    entry .operation "__contains__" (some "($self, key, /)") [
      "True if the dictionary has the specified key, else False."],
    entry .operation "__sizeof__" none ["D.__sizeof__() -> size of D in memory, in bytes"],
    entry .operation "get" (some "($self, key, default=None, /)") [
      "Return the value for key if key is in the dictionary, else default."],
    entry .operation "setdefault" (some "($self, key, default=None, /)") [
      "Insert key with a value of default if key is not in the dictionary.", "",
      "Return the value for key if key is in the dictionary, else default."],
    entry .operation "pop" (some "($self, key, default=<unrepresentable>, /)") [
      "D.pop(k[,d]) -> v, remove specified key and return the corresponding value.", "",
      "If the key is not found, return the default if given; otherwise,", "raise a KeyError."],
    entry .operation "popitem" (some "($self, /)") [
      "Remove and return a (key, value) pair as a 2-tuple.", "",
      "Pairs are returned in LIFO (last-in, first-out) order.",
      "Raises KeyError if the dict is empty."],
    entry .operation "keys" none ["D.keys() -> a set-like object providing a view on D's keys"],
    entry .operation "items" none [
      "D.items() -> a set-like object providing a view on D's items"],
    entry .operation "values" none ["D.values() -> an object providing a view on D's values"],
    entry .operation "update" none [
      "D.update([E, ]**F) -> None.  Update D from dict/iterable E and F.",
      "If E is present and has a .keys() method, then does:  for k in E: D[k] = E[k]",
      "If E is present and lacks a .keys() method, then does:  for k, v in E: D[k] = v",
      "In either case, this is followed by: for k in F:  D[k] = F[k]"],
    entry .kindOperation "fromkeys" (some "($type, iterable, value=None, /)") [
      "Create a new dictionary with keys from iterable and values set to value."],
    entry .operation "clear" none ["D.clear() -> None.  Remove all items from D."],
    entry .operation "copy" none ["D.copy() -> a shallow copy of D"],
    entry .operation "__reversed__" (some "($self, /)") [
      "Return a reverse iterator over the dict keys."],
    entry .kindOperation "__class_getitem__" none ["See PEP 585"],
    note "__doc__" (Kind.description? .dictionary)]

/-- The catalog of the value for nothing. -/
def nothingEntries : List Entry :=
  [maker] ++
  operators ["__repr__", "__bool__"] ++
  [note "__doc__" none]

/-- The catalog of operators and operations. -/
def operatorEntries : List Entry :=
  operators ["__repr__", "__call__", "__getattribute__", "__get__"] ++
  [bare .operation "__reduce__"] ++
  fields ["__objclass__", "__name__"] ++
  properties ["__doc__", "__qualname__", "__text_signature__"]

/-- The catalog of operations on kinds. -/
def kindOperationEntries : List Entry :=
  operators ["__repr__", "__call__", "__getattribute__", "__get__"] ++
  fields ["__objclass__", "__name__"] ++
  properties ["__doc__", "__qualname__", "__text_signature__"]

/-- The catalog of free operations. -/
def freeOperationEntries : List Entry :=
  [maker] ++
  operators ["__repr__", "__call__", "__get__", "__init__"] ++
  fields ["__func__", "__wrapped__"] ++
  properties ["__isabstractmethod__", "__dict__"] ++
  [note "__doc__" (Kind.description? .freeOperation)]

/-- The catalog of properties. -/
def propertyEntries : List Entry :=
  operators ["__repr__", "__getattribute__", "__get__", "__set__", "__delete__"] ++
  fields ["__objclass__", "__name__"] ++
  properties ["__doc__", "__qualname__"]

/-- The catalog of fields. -/
def fieldEntries : List Entry :=
  operators ["__repr__", "__getattribute__", "__get__", "__set__", "__delete__"] ++
  [bare .operation "__reduce__"] ++
  fields ["__objclass__", "__name__"] ++
  properties ["__doc__", "__qualname__"]

/-- The catalog of bound operators. -/
def boundOperatorEntries : List Entry :=
  operators [
    "__repr__", "__hash__", "__call__", "__getattribute__", "__lt__", "__le__", "__eq__",
    "__ne__", "__gt__", "__ge__"] ++
  [bare .operation "__reduce__"] ++
  fields ["__self__"] ++
  properties ["__objclass__", "__name__", "__qualname__", "__doc__", "__text_signature__"]

/-- The catalog of bound operations. -/
def boundOperationEntries : List Entry :=
  operators [
    "__repr__", "__hash__", "__call__", "__getattribute__", "__lt__", "__le__", "__eq__",
    "__ne__", "__gt__", "__ge__"] ++
  [bare .operation "__reduce__"] ++
  fields ["__module__"] ++
  properties ["__doc__", "__name__", "__qualname__", "__self__", "__text_signature__"]

/-- The catalog of catalogs. -/
def catalogEntries : List Entry :=
  [maker] ++
  operators [
    "__repr__", "__str__", "__getattribute__", "__lt__", "__le__", "__eq__", "__ne__", "__gt__",
    "__ge__", "__iter__", "__or__", "__ror__", "__ior__", "__len__", "__getitem__",
    "__contains__"] ++
  [
    entry .operation "get" none ["D.get(k[,d]) -> D[k] if k in D, else d.  d defaults to None."],
    entry .operation "keys" none ["D.keys() -> a set-like object providing a view on D's keys"],
    entry .operation "values" none ["D.values() -> an object providing a view on D's values"],
    entry .operation "items" none [
      "D.items() -> a set-like object providing a view on D's items"],
    entry .operation "copy" none ["D.copy() -> a shallow copy of D"],
    entry .kindOperation "__class_getitem__" none ["See PEP 585"],
    entry .operation "__reversed__" none ["D.__reversed__() -> reverse iterator"],
    note "__doc__" none,
    note "__hash__" none]

/-- The catalog of applied kinds. -/
def appliedEntries : List Entry :=
  [maker] ++
  operators [
    "__repr__", "__hash__", "__call__", "__getattribute__", "__lt__", "__le__", "__eq__",
    "__ne__", "__gt__", "__ge__", "__iter__", "__or__", "__ror__", "__getitem__"] ++
  [
    bare .operation "__mro_entries__",
    bare .operation "__instancecheck__",
    bare .operation "__subclasscheck__",
    bare .operation "__reduce__",
    bare .operation "__dir__"] ++
  fields ["__origin__", "__args__", "__unpacked__"] ++
  [entry .property "__parameters__" none ["Type variables in the GenericAlias."]] ++
  properties ["__typing_unpacked_tuple_args__"] ++
  [note "__doc__" (Kind.description? .applied)]

/-- The catalog of a kind. -/
def Kind.entries : Kind → List Entry
  | .anything => anythingEntries
  | .kind => kindEntries
  | .text => textEntries
  | .integer => integerEntries
  | .truth => truthEntries
  | .sequence => sequenceEntries
  | .dictionary => dictionaryEntries
  | .nothing => nothingEntries
  | .operator => operatorEntries
  | .operation => operatorEntries
  | .kindOperation => kindOperationEntries
  | .freeOperation => freeOperationEntries
  | .property => propertyEntries
  | .field => fieldEntries
  | .boundOperator => boundOperatorEntries
  | .boundOperation => boundOperationEntries
  | .catalog => catalogEntries
  | .applied => appliedEntries

end SequenceApi.Template
