import Showcase.Input.Key

/-!
# Key bindings

Keys for one action, with the label and description that the help shows.
-/

namespace Showcase.Widget

structure Binding where
  keys : List Key
  label : String
  description : String
  enabled : Bool := true
  deriving DecidableEq

namespace Binding

/-- A binding labelled with all its keys. -/
def ofKeys (keys : List Key) (description : String) : Binding :=
  { keys, label := "/".intercalate (keys.map Key.label), description }

def withLabel (binding : Binding) (label : String) : Binding := { binding with label }

def withEnabled (binding : Binding) (enabled : Bool) : Binding := { binding with enabled }

def triggers (binding : Binding) (key : Key) : Bool := binding.enabled && binding.keys.contains key

end Binding

end Showcase.Widget
