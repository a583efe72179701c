import Umbra.Engine
import Umbra.Selector.Basic

/-! What a selector may leave out and what it may contain. -/

namespace Umbra

open Selector (PseudoClassName)

structure Options where
  /-- The engine of the parts that name none. -/
  defaultEngine : Engine := .css
  allows : PseudoClassName → Bool := fun _ => true

namespace Options

/-- Everything is allowed. -/
def default : Options := {}

def withPseudoClass (o : Options) (name : PseudoClassName) : Options :=
  { o with allows := fun n => n == name || o.allows n }

def withoutPseudoClass (o : Options) (name : PseudoClassName) : Options :=
  { o with allows := fun n => n != name && o.allows n }

def withDefaultEngine (o : Options) (engine : Engine) : Options :=
  { o with defaultEngine := engine }

def pseudoClasses (o : Options) : List PseudoClassName := PseudoClassName.all.filter o.allows

def ofPseudoClasses (engine : Engine) (names : List PseudoClassName) : Options :=
  ⟨engine, fun n => names.contains n⟩

theorem ofPseudoClasses_pseudoClasses (o : Options) :
    ofPseudoClasses o.defaultEngine o.pseudoClasses = o := by
  have h : (fun n => o.pseudoClasses.contains n) = o.allows := by
    funext n
    simp [pseudoClasses, PseudoClassName.mem_all]
  rw [ofPseudoClasses, h]

end Options

end Umbra
