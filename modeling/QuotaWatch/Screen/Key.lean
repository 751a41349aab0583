/-!
**Keys and key bindings.**

A key press is known by its name: the name of a special key (`enter`, `esc`, `tab`, `shift+tab`,
`up`, `pgdown`, `ctrl+c`, `" "` for the space bar, …) or the characters typed, with `alt+`
in front when the Alt key was held. A binding is a set of such names with a line of help (the
keys as shown, and what they do); a key matches a binding when its name is one of them.
-/

namespace QuotaWatch.Screen

/-- A key press, by name. -/
structure Key where
  name : String
  deriving Inhabited, DecidableEq, Repr

/-- Keys that do one thing, with their help line. -/
structure Binding where
  keys : List String
  helpKey : String
  helpDesc : String
  deriving Inhabited, Repr

/-- Whether a key press is one of the binding's keys. -/
def Binding.matches (b : Binding) (k : Key) : Bool := b.keys.contains k.name

end QuotaWatch.Screen
