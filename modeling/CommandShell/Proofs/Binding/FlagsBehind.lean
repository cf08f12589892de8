import CommandShell.Proofs.Binding.Scan
import CommandShell.Proofs.Token.QuotedLine

/-!
# Flags behind a scan

Tokens that are read to their end may be followed by a flag with its value. It does not change how the
tokens in front are read: a truth value's flag at their end, which no value follows, stays a switch when
another flag follows. And the new flag takes its value, since nothing that reads as a truth value is a flag.

    Scan cs c taken args gs  →  Scan cs c taken (args ++ [flag, token]) (gs ++ [.named flag token i])
                                if the parameter at i is free and the token converts
-/

namespace CommandShell

/-! ## Truth values are no flags -/

theorem Text.mem_trim {s : String} {ch : Char} (h : ch ∈ s.toList) (hb : isBlank ch = false) :
    ch ∈ (trim s).toList := by
  have hdrop : ∀ {cs : List Char}, ch ∈ cs → ch ∈ cs.dropWhile isBlank := by
    intro cs hcs
    rw [← List.takeWhile_append_dropWhile (p := isBlank) (l := cs), List.mem_append] at hcs
    refine hcs.resolve_left fun htake => ?_
    rw [List.all_eq_true.1 List.all_takeWhile ch htake] at hb
    cases hb
  unfold trim dropTrailing dropBlanks
  rw [String.toList_ofList, List.mem_reverse]
  exact hdrop (List.mem_reverse.2 (hdrop h))

theorem isFlag_iff {token : String} : isFlag token = true ↔ token.toList.head? = some '-' := by
  unfold isFlag
  rw [beq_iff_eq]

/-- What reads as a truth value has no dash in it. -/
theorem dash_notMem_of_readBool {s : String} {b : Bool} (h : readBool s = some b) : '-' ∉ s.toList := by
  intro hmem
  have hword : '-' ∈ (Text.asciiLower (Text.trim s)).toList := by
    unfold Text.asciiLower
    rw [String.toList_map]
    exact List.mem_map.2 ⟨'-', Text.mem_trim hmem (by decide), by decide⟩
  unfold readBool at h
  dsimp only at h
  split at h
  · next htrue =>
    rcases htrue with he | he | he <;> rw [he] at hword <;> exact absurd hword (by decide)
  · split at h
    · next hfalse =>
      rcases hfalse with he | he | he <;> rw [he] at hword <;> exact absurd hword (by decide)
    · cases h

/-- A token that a truth value is made of is no flag. -/
theorem Converters.isFlag_eq_false_of_convert {cs : Converters} {p : Parameter}
    (hbool : p.type.isBoolean = true) {token : String} {v : Value} (h : cs.convert p token = .ok v) :
    isFlag token = false := by
  refine Bool.eq_false_iff.2 fun hflag => ?_
  rw [isFlag_iff] at hflag
  have hunquote : unquote token = token := unquote_of_head?_ne (by rw [hflag]; decide)
  rw [convert_of_isBoolean hbool, hunquote] at h
  split at h
  · next b hb => exact dash_notMem_of_readBool hb (List.mem_of_mem_head? hflag)
  · cases h

/-! ## Scans with a flag at their end -/

/-- A group fits with a flag behind what follows it. -/
theorem Group.Fits.append_flag {c : Command} {taken : List Nat} {after : List String} {g : Group}
    (h : g.Fits c taken after) {flag : String} (hflag : isFlag flag = true) (rest : List String) :
    g.Fits c taken (after ++ flag :: rest) := by
  cases g with
  | switch name i =>
    obtain ⟨p, hp, hbool, hafter⟩ := h
    refine ⟨p, hp, hbool, fun t ht => ?_⟩
    cases after with
    | nil =>
      obtain rfl : flag = t := Option.some.inj ht
      exact hflag
    | cons u after => exact hafter t ht
  | named name token i | positional token i => exact h

/-- A flag with its value may stand behind a scan that does not target its parameter. -/
theorem Scan.concat_named {cs : Converters} {c : Command} {taken : List Nat} {args : List String}
    {gs : List Group} (h : Scan cs c taken args gs) {flag token : String} {i : Nat} {p : Parameter}
    (hp : c.FlagNames flag i p) {v : Value} (hv : cs.convert p token = .ok v) (htaken : i ∉ taken)
    (hfree : i ∉ gs.map Group.place) :
    Scan cs c taken (args ++ [flag, token]) (gs ++ [.named flag token i]) := by
  have hvalue : ¬(p.type.isBoolean = true ∧ isFlag token = true) := by
    rintro ⟨hbool, hflag⟩
    rw [Converters.isFlag_eq_false_of_convert hbool hv] at hflag
    cases hflag
  induction gs generalizing taken args with
  | nil =>
    rw [scan_nil_iff.1 h]
    exact scan_cons_iff.2
      ⟨[], rfl, ⟨p, hp, hvalue⟩, htaken, ⟨v, p, hp.stands, hv⟩, scan_nil_iff.2 rfl⟩
  | cons g gs ih =>
    obtain ⟨rest, rfl, hfits, hnew, hgives, hscan⟩ := scan_cons_iff.1 h
    rw [List.map_cons, List.mem_cons, not_or] at hfree
    refine scan_cons_iff.2 ⟨rest ++ [flag, token], List.append_assoc _ _ _,
      hfits.append_flag hp.flag_isFlag _, hnew, hgives, ih hscan ?_ hfree.2⟩
    rw [List.mem_append, List.mem_singleton]
    exact not_or.2 ⟨htaken, hfree.1⟩

end CommandShell
