/-! The search for one text inside another. -/

namespace Umbra.Text

def occursIn (needle : List Char) : List Char → Bool
  | [] => needle.isEmpty
  | c :: s => needle.isPrefixOf (c :: s) || occursIn needle s

/-- Cuts a text before the first occurrence of `needle`. -/
def cutBefore? (needle : List Char) : List Char → Option (List Char × List Char)
  | [] => if needle.isEmpty then some ([], []) else none
  | c :: s =>
    if needle.isPrefixOf (c :: s) then some ([], c :: s)
    else (cutBefore? needle s).map fun (before, rest) => (c :: before, rest)

/-- What stands before and behind the last occurrence of the character `c`. -/
def splitLast? (c : Char) : List Char → Option (List Char × List Char)
  | [] => none
  | d :: s =>
    match splitLast? c s with
    | some (before, after) => some (d :: before, after)
    | none => if d = c then some ([], s) else none

theorem occursIn_iff {needle s : List Char} : occursIn needle s = true ↔ needle <:+: s := by
  induction s with
  | nil => cases needle <;> simp [occursIn]
  | cons c s ih => simp [occursIn, ih, List.infix_cons_iff]

theorem append_of_cutBefore? {needle s before rest : List Char}
    (h : cutBefore? needle s = some (before, rest)) : before ++ rest = s := by
  induction s generalizing before with
  | nil =>
    rw [cutBefore?] at h
    split at h <;> simp_all
  | cons c s ih =>
    rw [cutBefore?] at h
    split at h
    · simp_all
    · simp only [Option.map_eq_some_iff, Prod.mk.injEq, Prod.exists] at h
      obtain ⟨b, r, hc, rfl, rfl⟩ := h
      simp [ih hc]

theorem append_of_splitLast? {c : Char} {s before after : List Char}
    (h : splitLast? c s = some (before, after)) : before ++ c :: after = s := by
  induction s generalizing before with
  | nil => simp [splitLast?] at h
  | cons d s ih =>
    rw [splitLast?] at h
    split at h
    · rename_i b a hs
      simp only [Option.some.injEq, Prod.mk.injEq] at h
      obtain ⟨rfl, rfl⟩ := h
      simp [ih hs]
    · split at h <;> simp_all

theorem splitLast?_append {c : Char} (before : List Char) {after : List Char} (h : c ∉ after) :
    splitLast? c (before ++ c :: after) = some (before, after) := by
  have hnone : splitLast? c after = none := by
    induction after with
    | nil => rfl
    | cons d after ih =>
      obtain ⟨hd, hafter⟩ := not_or.1 (mt List.mem_cons.2 h)
      rw [splitLast?, ih hafter]
      exact if_neg (Ne.symm hd)
  induction before with
  | nil => simp [splitLast?, hnone]
  | cons d before ih => simp [splitLast?, ih]

end Umbra.Text
