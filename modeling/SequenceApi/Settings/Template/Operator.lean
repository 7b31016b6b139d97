/-!
# Operators

An operator is known by its name, is called in one way and does one thing, whatever kind it belongs
to.

## Main definitions

* `Template.operatorTexts`: the operators, how each is called and what it does
* `Template.operatorText`: the texts of one of them
-/

namespace SequenceApi.Template

/-- The operators by name, with how each is called and what it does. -/
def operatorTexts : List (String × String × String) := [
  ("__repr__", "($self, /)", "Return repr(self)."),
  ("__hash__", "($self, /)", "Return hash(self)."),
  ("__str__", "($self, /)", "Return str(self)."),
  ("__getattribute__", "($self, name, /)", "Return getattr(self, name)."),
  ("__setattr__", "($self, name, value, /)", "Implement setattr(self, name, value)."),
  ("__delattr__", "($self, name, /)", "Implement delattr(self, name)."),
  ("__lt__", "($self, value, /)", "Return self<value."),
  ("__le__", "($self, value, /)", "Return self<=value."),
  ("__eq__", "($self, value, /)", "Return self==value."),
  ("__ne__", "($self, value, /)", "Return self!=value."),
  ("__gt__", "($self, value, /)", "Return self>value."),
  ("__ge__", "($self, value, /)", "Return self>=value."),
  ("__init__", "($self, /, *args, **kwargs)",
    "Initialize self.  See help(type(self)) for accurate signature."),
  ("__call__", "($self, /, *args, **kwargs)", "Call self as a function."),
  ("__or__", "($self, value, /)", "Return self|value."),
  ("__ror__", "($self, value, /)", "Return value|self."),
  ("__iter__", "($self, /)", "Implement iter(self)."),
  ("__mod__", "($self, value, /)", "Return self%value."),
  ("__rmod__", "($self, value, /)", "Return value%self."),
  ("__len__", "($self, /)", "Return len(self)."),
  ("__getitem__", "($self, key, /)", "Return self[key]."),
  ("__add__", "($self, value, /)", "Return self+value."),
  ("__mul__", "($self, value, /)", "Return self*value."),
  ("__rmul__", "($self, value, /)", "Return value*self."),
  ("__contains__", "($self, key, /)", "Return key in self."),
  ("__radd__", "($self, value, /)", "Return value+self."),
  ("__sub__", "($self, value, /)", "Return self-value."),
  ("__rsub__", "($self, value, /)", "Return value-self."),
  ("__divmod__", "($self, value, /)", "Return divmod(self, value)."),
  ("__rdivmod__", "($self, value, /)", "Return divmod(value, self)."),
  ("__pow__", "($self, value, mod=None, /)", "Return pow(self, value, mod)."),
  ("__rpow__", "($self, value, mod=None, /)", "Return pow(value, self, mod)."),
  ("__neg__", "($self, /)", "-self"),
  ("__pos__", "($self, /)", "+self"),
  ("__abs__", "($self, /)", "abs(self)"),
  ("__bool__", "($self, /)", "True if self else False"),
  ("__invert__", "($self, /)", "~self"),
  ("__lshift__", "($self, value, /)", "Return self<<value."),
  ("__rlshift__", "($self, value, /)", "Return value<<self."),
  ("__rshift__", "($self, value, /)", "Return self>>value."),
  ("__rrshift__", "($self, value, /)", "Return value>>self."),
  ("__and__", "($self, value, /)", "Return self&value."),
  ("__rand__", "($self, value, /)", "Return value&self."),
  ("__xor__", "($self, value, /)", "Return self^value."),
  ("__rxor__", "($self, value, /)", "Return value^self."),
  ("__int__", "($self, /)", "int(self)"),
  ("__float__", "($self, /)", "float(self)"),
  ("__floordiv__", "($self, value, /)", "Return self//value."),
  ("__rfloordiv__", "($self, value, /)", "Return value//self."),
  ("__truediv__", "($self, value, /)", "Return self/value."),
  ("__rtruediv__", "($self, value, /)", "Return value/self."),
  ("__index__", "($self, /)",
    "Return self converted to an integer, if self is suitable for use as an index into a list."),
  ("__ior__", "($self, value, /)", "Return self|=value."),
  ("__setitem__", "($self, key, value, /)", "Set self[key] to value."),
  ("__delitem__", "($self, key, /)", "Delete self[key]."),
  ("__get__", "($self, instance, owner=None, /)",
    "Return an attribute of instance, which is of type owner."),
  ("__set__", "($self, instance, value, /)", "Set an attribute of instance to value."),
  ("__delete__", "($self, instance, /)", "Delete an attribute of instance.")]

/-- How an operator is called and what it does; nothing is known of one that is not in the list. -/
def operatorText (name : String) : Option (String × String) :=
  (operatorTexts.find? (·.1 == name)).map (·.2)

end SequenceApi.Template
