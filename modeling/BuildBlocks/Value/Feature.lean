import BuildBlocks.Value.Kind

/-!
# What kinds bring to their values

A kind gives names to what can be done with its values and to their parts. A name that a kind does
not bring itself may come from one of the kinds that it specialises; the nearest one counts
(`Kind.bringer?`).
-/

namespace BuildBlocks

/-- What a name stands for in the values of a kind. -/
inductive Feature where
  /-- An operation behind a sign. -/
  | slot
  /-- A named operation. -/
  | method
  /-- An operation of the kind as a whole. -/
  | shared
  /-- An operation of the kind that brings it, even where a more special kind is asked. -/
  | fixed
  /-- An operation that belongs to nothing, although the kind that brings it is named for it. -/
  | loose
  /-- A part that is worked out. -/
  | part
  /-- A part that is kept. -/
  | field
  /-- A value that all values of the kind have in common. -/
  | constant
  /-- Nothing, although more general kinds bring something. -/
  | absent
  deriving DecidableEq, Repr

namespace Kind

/-- The names that a kind brings itself, by what they stand for. -/
def brings : Kind → List (Feature × String)
  | .object => [
      (.slot, "__delattr__ __eq__ __ge__ __getattribute__ __gt__ __hash__ __init__ __le__ " ++
        "__lt__ __ne__ __repr__ __setattr__ __str__"),
      (.method, "__dir__ __format__ __getstate__ __reduce__ __reduce_ex__ __sizeof__"),
      (.shared, "__init_subclass__ __subclasshook__"),
      (.fixed, "__new__")]
  | .null => [
      (.slot, "__bool__ __repr__"),
      (.fixed, "__new__")]
  | .bool => [
      (.slot, "__and__ __or__ __rand__ __repr__ __ror__ __rxor__ __xor__"),
      (.fixed, "__new__")]
  | .int => [
      (.slot, "__abs__ __add__ __and__ __bool__ __divmod__ __eq__ __float__ __floordiv__ " ++
        "__ge__ __getattribute__ __gt__ __hash__ __index__ __int__ __invert__ __le__ " ++
        "__lshift__ __lt__ __mod__ __mul__ __ne__ __neg__ __or__ __pos__ __pow__ " ++
        "__radd__ __rand__ __rdivmod__ __repr__ __rfloordiv__ __rlshift__ __rmod__ " ++
        "__rmul__ __ror__ __rpow__ __rrshift__ __rshift__ __rsub__ __rtruediv__ " ++
        "__rxor__ __sub__ __truediv__ __xor__"),
      (.method, "__ceil__ __floor__ __format__ __getnewargs__ __round__ __sizeof__ __trunc__ " ++
        "as_integer_ratio bit_count bit_length conjugate to_bytes"),
      (.shared, "from_bytes"),
      (.fixed, "__new__"),
      (.part, "denominator imag numerator real")]
  | .double => [
      (.slot, "__abs__ __add__ __bool__ __divmod__ __eq__ __float__ __floordiv__ __ge__ " ++
        "__getattribute__ __gt__ __hash__ __int__ __le__ __lt__ __mod__ __mul__ __ne__ " ++
        "__neg__ __pos__ __pow__ __radd__ __rdivmod__ __repr__ __rfloordiv__ __rmod__ " ++
        "__rmul__ __rpow__ __rsub__ __rtruediv__ __sub__ __truediv__"),
      (.method, "__ceil__ __floor__ __format__ __getnewargs__ __round__ __trunc__ " ++
        "as_integer_ratio conjugate hex is_integer"),
      (.shared, "__getformat__ fromhex"),
      (.fixed, "__new__"),
      (.part, "imag real")]
  | .text => [
      (.slot, "__add__ __contains__ __eq__ __ge__ __getattribute__ __getitem__ __gt__ " ++
        "__hash__ __iter__ __le__ __len__ __lt__ __mod__ __mul__ __ne__ __repr__ " ++
        "__rmod__ __rmul__ __str__"),
      (.method, "__format__ __getnewargs__ __sizeof__ capitalize casefold center count encode " ++
        "endswith expandtabs find format format_map index isalnum isalpha isascii " ++
        "isdecimal isdigit isidentifier islower isnumeric isprintable isspace istitle " ++
        "isupper join ljust lower lstrip partition removeprefix removesuffix replace " ++
        "rfind rindex rjust rpartition rsplit rstrip split splitlines startswith strip " ++
        "swapcase title translate upper zfill"),
      (.fixed, "__new__"),
      (.loose, "maketrans")]
  | .list => [
      (.slot, "__add__ __contains__ __delitem__ __eq__ __ge__ __getattribute__ __gt__ " ++
        "__iadd__ __imul__ __init__ __iter__ __le__ __len__ __lt__ __mul__ __ne__ " ++
        "__repr__ __rmul__ __setitem__"),
      (.method, "__getitem__ __reversed__ __sizeof__ append clear copy count extend index " ++
        "insert pop remove reverse sort"),
      (.shared, "__class_getitem__"),
      (.fixed, "__new__"),
      (.absent, "__hash__")]
  | .tuple => [
      (.slot, "__add__ __contains__ __eq__ __ge__ __getattribute__ __getitem__ __gt__ " ++
        "__hash__ __iter__ __le__ __len__ __lt__ __mul__ __ne__ __repr__ __rmul__"),
      (.method, "__getnewargs__ count index"),
      (.shared, "__class_getitem__"),
      (.fixed, "__new__")]
  | .set => [
      (.slot, "__and__ __eq__ __ge__ __getattribute__ __gt__ __iand__ __init__ __ior__ " ++
        "__isub__ __iter__ __ixor__ __le__ __len__ __lt__ __ne__ __or__ __rand__ " ++
        "__repr__ __ror__ __rsub__ __rxor__ __sub__ __xor__"),
      (.method, "__contains__ __reduce__ __sizeof__ add clear copy difference difference_update " ++
        "discard intersection intersection_update isdisjoint issubset issuperset pop " ++
        "remove symmetric_difference symmetric_difference_update union update"),
      (.shared, "__class_getitem__"),
      (.fixed, "__new__"),
      (.absent, "__hash__")]
  | .record => [
      (.slot, "__delattr__ __eq__ __ge__ __getattribute__ __gt__ __init__ __le__ __lt__ " ++
        "__ne__ __repr__ __setattr__"),
      (.method, "__reduce__"),
      (.fixed, "__new__"),
      (.field, "__dict__"),
      (.absent, "__hash__")]
  | .date => [
      (.slot, "__add__ __eq__ __ge__ __getattribute__ __gt__ __hash__ __le__ __lt__ __ne__ " ++
        "__radd__ __repr__ __rsub__ __str__ __sub__"),
      (.method, "__format__ __reduce__ ctime isocalendar isoformat isoweekday replace strftime " ++
        "timetuple toordinal weekday"),
      (.shared, "fromisocalendar fromisoformat fromordinal fromtimestamp today"),
      (.fixed, "__new__"),
      (.part, "day month year"),
      (.constant, "max min resolution")]
  | .dateTime => [
      (.slot, "__add__ __eq__ __ge__ __getattribute__ __gt__ __hash__ __le__ __lt__ __ne__ " ++
        "__radd__ __repr__ __rsub__ __str__ __sub__"),
      (.method, "__reduce__ __reduce_ex__ astimezone ctime date dst isoformat replace time " ++
        "timestamp timetuple timetz tzname utcoffset utctimetuple"),
      (.shared, "combine fromisoformat fromtimestamp now strptime utcfromtimestamp utcnow"),
      (.fixed, "__new__"),
      (.part, "fold hour microsecond minute second tzinfo"),
      (.constant, "max min resolution")]
  | .duration => [
      (.slot, "__abs__ __add__ __bool__ __divmod__ __eq__ __floordiv__ __ge__ " ++
        "__getattribute__ __gt__ __hash__ __le__ __lt__ __mod__ __mul__ __ne__ __neg__ " ++
        "__pos__ __radd__ __rdivmod__ __repr__ __rfloordiv__ __rmod__ __rmul__ __rsub__ " ++
        "__rtruediv__ __str__ __sub__ __truediv__"),
      (.method, "__reduce__ total_seconds"),
      (.fixed, "__new__"),
      (.field, "days microseconds seconds"),
      (.constant, "max min resolution")]
  | .anyZone => [
      (.slot, "__getattribute__"),
      (.method, "__reduce__ dst fromutc tzname utcoffset"),
      (.fixed, "__new__")]
  | .zone => [
      (.slot, "__eq__ __ge__ __gt__ __hash__ __le__ __lt__ __ne__ __repr__ __str__"),
      (.method, "__getinitargs__ dst fromutc tzname utcoffset"),
      (.fixed, "__new__"),
      (.constant, "max min utc")]
  | .bytes => [
      (.slot, "__add__ __contains__ __eq__ __ge__ __getattribute__ __getitem__ __gt__ " ++
        "__hash__ __iter__ __le__ __len__ __lt__ __mod__ __mul__ __ne__ __repr__ " ++
        "__rmod__ __rmul__ __str__"),
      (.method, "__bytes__ __getnewargs__ capitalize center count decode endswith expandtabs " ++
        "find hex index isalnum isalpha isascii isdigit islower isspace istitle isupper " ++
        "join ljust lower lstrip partition removeprefix removesuffix replace rfind " ++
        "rindex rjust rpartition rsplit rstrip split splitlines startswith strip " ++
        "swapcase title translate upper zfill"),
      (.shared, "fromhex"),
      (.fixed, "__new__"),
      (.loose, "maketrans")]
  | .kind => [
      (.slot, "__call__ __delattr__ __getattribute__ __init__ __or__ __repr__ __ror__ " ++
        "__setattr__"),
      (.method, "__dir__ __instancecheck__ __sizeof__ __subclasscheck__ __subclasses__ mro"),
      (.shared, "__prepare__"),
      (.fixed, "__new__"),
      (.part, "__bases__ __module__ __name__ __qualname__"),
      (.field, "__base__ __mro__")]
  | .method => [
      (.slot, "__call__ __eq__ __ge__ __getattribute__ __gt__ __hash__ __le__ __lt__ __ne__ " ++
        "__repr__"),
      (.method, "__reduce__"),
      (.part, "__name__ __qualname__ __self__"),
      (.field, "__module__")]
  | .slot => [
      (.slot, "__call__ __eq__ __ge__ __getattribute__ __gt__ __hash__ __le__ __lt__ __ne__ " ++
        "__repr__"),
      (.method, "__reduce__"),
      (.part, "__name__ __objclass__ __qualname__"),
      (.field, "__self__")]
  | .unbound .slot => [
      (.slot, "__call__ __get__ __getattribute__ __repr__"),
      (.method, "__reduce__"),
      (.part, "__qualname__"),
      (.field, "__name__ __objclass__")]
  | .unbound .method => [
      (.slot, "__call__ __get__ __getattribute__ __repr__"),
      (.method, "__reduce__"),
      (.part, "__qualname__"),
      (.field, "__name__ __objclass__")]
  | .unbound .part => [
      (.slot, "__delete__ __get__ __getattribute__ __repr__ __set__"),
      (.part, "__qualname__"),
      (.field, "__name__ __objclass__")]
  | .unbound .field => [
      (.slot, "__delete__ __get__ __getattribute__ __repr__ __set__"),
      (.method, "__reduce__"),
      (.part, "__qualname__"),
      (.field, "__name__ __objclass__")]
  | .mapping => []

/-- What a name stands for among those that a kind brings itself. -/
def feature? (k : Kind) (name : String) : Option Feature :=
  (k.brings.find? fun e => (e.2.splitOn " ").contains name).map (·.1)

/-- The nearest kind that brings a name, from the kind itself up, and what the name stands for. -/
def bringer? (k : Kind) (name : String) : Option (Kind × Feature) :=
  k.ancestry.findSome? fun a => (a.feature? name).map (a, ·)

end Kind
end BuildBlocks
