import FormChain.Form.VariableName
import FormChain.Proofs.Template.Shadowing
import FormChain.Proofs.Unicode.Letters

/-!
# References to variables by name

What a form is checked for when it names a variable (`FormChain.isVariableName`) and how a
reference is read (`FormChain.Template.Reference.ofBody`) are told independently of each other, and
they fit: nothing that a reference is parted by can stand in a name, so a name is one segment of a
path, without anything around it that trimming would take away. The one thing a name can run into
are the two words that are references already, to the date and to the time of day: these go before
all variables.

Main statement: every variable can be read back under its name, with `output:` in front of it
always, and without if no loop hides it and it is not called as the date or the time
(`FormChain.Template.expand_reference_to_name`).
-/

namespace FormChain

/-! ### The characters of a name -/

section Names

variable {name : String} {c : Char}

theorem continuesVariableName_of_starts (h : startsVariableName c = true) :
    continuesVariableName c = true := by
  rcases Bool.or_eq_true_iff.mp h with h | h
  · simp [continuesVariableName, Unicode.isAlphanumeric, h]
  · simp only [continuesVariableName, h, Bool.or_true, Bool.true_or]

/-- No character of a name is a blank. -/
theorem isBlank_of_continuesVariableName (h : continuesVariableName c = true) :
    isBlank c = false := by
  simp only [continuesVariableName, Bool.or_eq_true, decide_eq_true_eq] at h
  rcases h with (h | rfl) | rfl
  · exact Unicode.not_isBlank_of_alphanumeric h
  · decide
  · decide

/-- **A name** has a first character, and all its characters are such as a name goes on with. -/
theorem characters_of_isVariableName (h : isVariableName name = true) :
    name.toList ≠ [] ∧ ∀ c ∈ name.toList, continuesVariableName c = true := by
  unfold isVariableName at h
  split at h
  case h_1 => cases h
  case h_2 c rest hname =>
    obtain ⟨hc, hrest⟩ := Bool.and_eq_true_iff.mp h
    rw [hname]
    exact ⟨List.cons_ne_nil c rest, List.forall_mem_cons.mpr
      ⟨continuesVariableName_of_starts hc, List.all_eq_true.mp hrest⟩⟩

/-- What cannot stand in a name does not. -/
theorem not_mem_of_isVariableName (h : isVariableName name = true)
    (hc : continuesVariableName c = false) : c ∉ name.toList := by
  intro hmem
  rw [(characters_of_isVariableName h).2 c hmem] at hc
  cases hc

theorem isBlank_of_mem_name (h : isVariableName name = true) (hc : c ∈ name.toList) :
    isBlank c = false :=
  isBlank_of_continuesVariableName ((characters_of_isVariableName h).2 c hc)

/-- A name is not cut at points. -/
theorem pathSegments_of_isVariableName (h : isVariableName name = true) :
    pathSegments name = [name] := by
  have hpoint : '.' ∉ name.toList := not_mem_of_isVariableName h (by decide)
  rw [pathSegments, Text.pieces_of_not_mem hpoint, List.map_singleton, String.ofList_toList]

/-- Among the variables a name means the variable. -/
theorem output?_of_isVariableName (h : isVariableName name = true) (e : Environment) :
    e.output? name = e.outputs.get? name := by
  rw [Environment.output?, resolvePath?, pathSegments_of_isVariableName h]
  exact Option.bind_fun_some (e.outputs.get? name)

/-- A name that no loop binds means the variable. -/
theorem chainValue?_of_isVariableName (h : isVariableName name = true) {e : Environment}
    (hfree : ∀ f ∈ e.scope.frames, f.bindings.get? name = none) :
    e.chainValue? name = e.outputs.get? name := by
  have hscope : e.scope.get? name = none := List.findSome?_eq_none_iff.mpr hfree
  rw [Environment.chainValue?, Scope.resolve?, resolvePath?, pathSegments_of_isVariableName h,
    output?_of_isVariableName h]
  simp only [hscope, Option.bind_none, Option.none_or]

end Names

namespace Template

/-! ### References to names -/

/-- A reference, with nothing around what it refers to. -/
def referenceTo (body : String) : String := "\x7b\x7b" ++ body ++ "\x7d\x7d"

section References

variable {name body : String} {e : Environment} {v : Value}

/-- The pattern is fitted to it as it is written. -/
theorem fits_referenceTo (hne : body.toList ≠ []) (hbraces : ∀ c ∈ body.toList, isBrace c = false) :
    Match.Fits ⟨[], body.toList, [], []⟩ (referenceTo body).toList where
  text := by simp [referenceTo, Match.source, Match.inside]
  opening := nofun
  body_ne := hne
  body := hbraces
  closing := nofun

/-- **What a reference expands to**, if it is trimmed and means something. -/
theorem expand_referenceTo (hne : body.toList ≠ [])
    (hbraces : ∀ c ∈ body.toList, isBrace c = false)
    (htrim : Text.trim body.toList = body.toList)
    (hmeans : (Reference.ofBody body.toList).resolve? e = pure (some v)) :
    expand e (referenceTo body) = pure v.render := by
  have hcuts : Cuts (referenceTo body).toList [.reference (referenceTo body).toList body.toList] :=
    cuts_single_iff.mpr ⟨_, (fits_referenceTo hne hbraces).isFirst_of_trimmed htrim, rfl, rfl⟩
  funext seed
  exact expand_of_single hcuts (congrArg (·.run seed) hmeans)

theorem isBrace_of_mem_name (h : isVariableName name = true) {c : Char} (hc : c ∈ name.toList) :
    isBrace c = false := by
  rw [isBrace, Bool.or_eq_false_iff, decide_eq_false_iff_not, decide_eq_false_iff_not]
  constructor <;> rintro rfl
  · exact not_mem_of_isVariableName h (by decide) hc
  · exact not_mem_of_isVariableName h (by decide) hc

/-- A name is referred to as a path, but for the two that are references to the clock. -/
theorem refersTo_of_isVariableName (h : isVariableName name = true) (hdate : name ≠ "date")
    (htime : name ≠ "time") : RefersTo (referenceTo name) name where
  written := ⟨_, fits_referenceTo (characters_of_isVariableName h).1 fun _ => isBrace_of_mem_name h,
    rfl, rfl⟩
  ne_date := hdate
  ne_time := htime
  no_colon := not_mem_of_isVariableName h (by decide)
  no_at := fun hat => not_mem_of_isVariableName h (by decide) (List.mem_of_mem_head? hat)
  trimmed := Text.trim_of_not_blank fun _ => isBlank_of_mem_name h

/-- What no character of a text passes, as it is computed. -/
theorem forall_mem_eq_false {p : Char → Bool} {cs : List Char} (h : cs.all (!p ·) = true) :
    ∀ c ∈ cs, p c = false := by
  simpa using h

/-- With `output:` in front of it a name is referred to among the variables alone. -/
theorem ofBody_output_name (h : isVariableName name = true) :
    Reference.ofBody ("output:" ++ name).toList = .output name := by
  have htrim : Text.trim name.toList = name.toList :=
    Text.trim_of_not_blank fun _ => isBlank_of_mem_name h
  have hafter : Text.after? "output:".toList ("output:" ++ name).toList = some name.toList :=
    Text.after?_eq_some_iff.mpr String.toList_append
  have hat : Text.after? ['@'] ("output:" ++ name).toList = none := by
    rw [String.toList_append]
    rfl
  simp only [Reference.ofBody, hat, hafter, htrim, String.ofList_toList]

/-- **A variable is read back under its name.** With `output:` in front of it the name expands to
the text of the variable, whatever loops are running and whatever the name is. Alone it does so if
no loop binds it, unless it is `date` or `time`, which are the date and the time of the clock. -/
theorem expand_reference_to_name (hname : isVariableName name = true)
    (hv : e.outputs.get? name = some v) :
    expand e (referenceTo ("output:" ++ name)) = pure v.render ∧
    ((∀ f ∈ e.scope.frames, f.bindings.get? name = none) → name ≠ "date" → name ≠ "time" →
      expand e (referenceTo name) = pure v.render) ∧
    (name = "date" → expand e (referenceTo name) = pure (e.now.format dateFormat)) ∧
    (name = "time" → expand e (referenceTo name) = pure (e.now.format timeFormat)) := by
  have hlist : ("output:" ++ name).toList = "output:".toList ++ name.toList :=
    String.toList_append
  refine ⟨expand_referenceTo ?_ ?_ ?_ ?_, fun hfree hdate htime => ?_, ?_, ?_⟩
  · simp [hlist]
  · simp only [hlist, List.forall_mem_append]
    exact ⟨forall_mem_eq_false (by decide), fun _ => isBrace_of_mem_name hname⟩
  · rw [hlist]
    refine Text.trim_of_not_blank ?_
    simp only [List.forall_mem_append]
    exact ⟨forall_mem_eq_false (by decide), fun _ => isBlank_of_mem_name hname⟩
  · rw [ofBody_output_name hname, Reference.resolve?, output?_of_isVariableName hname, hv]
  · rw [(refersTo_of_isVariableName hname hdate htime).expand_eq,
      chainValue?_of_isVariableName hname hfree, hv]
    rfl
  · rintro rfl
    exact expand_referenceTo (v := .text _) (by decide) (forall_mem_eq_false (by decide))
      (by decide) rfl
  · rintro rfl
    exact expand_referenceTo (v := .text _) (by decide) (forall_mem_eq_false (by decide))
      (by decide) rfl

/-- The variables of a chain that has named one of them as the date. -/
def dated : Environment where
  outputs := [("note_1-b", .list [.text "a", .text "b"]), ("date", .text "x")]

/-- A list is read back under its name. -/
theorem list_read_back :
    isVariableName "note_1-b" = true ∧
      dated.outputs.get? "note_1-b" = some (.list [.text "a", .text "b"]) ∧
      dated.scope.frames = [] ∧
      expand dated (referenceTo "output:note_1-b") = pure "a, b" ∧
      expand dated (referenceTo "note_1-b") = pure "a, b" := by
  have hname : isVariableName "note_1-b" = true := by decide
  have hv : dated.outputs.get? "note_1-b" = some (.list [.text "a", .text "b"]) := rfl
  obtain ⟨houtput, hplain, -, -⟩ := expand_reference_to_name hname hv
  exact ⟨hname, hv, rfl, houtput, hplain nofun (by decide) (by decide)⟩

/-- **The date goes before a variable of its name.** -/
theorem variable_called_date :
    isVariableName "date" = true ∧ dated.outputs.get? "date" = some (.text "x") ∧
      dated.scope.frames = [] ∧ ((expand dated (referenceTo "date")).run 0).1 ≠ "x" :=
  ⟨by decide, rfl, rfl, by decide⟩

end References

end Template

end FormChain
