import Umbra.TextPattern
import Umbra.Regex.Meaning

/-! The regular expressions of text patterns, by the syntax and the search of this directory. -/

namespace Umbra

instance Regex.library : RegexLibrary := ⟨Program, Regex.compile?, Program.occursIn⟩

instance : DecidableEq (@RegexLibrary.Program Regex.library) :=
  inferInstanceAs (DecidableEq Program)

end Umbra
