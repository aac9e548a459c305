import ShaderAssembly.Pipeline.Override
import ShaderAssembly.Proofs.Text.Trimmed

/-!
# Reading definitions back

The text of a definition is cut at its first equals sign, and both parts are trimmed. No blank is
an equals sign, so blanks around a name never move the cut, and a name without an equals sign is
followed by the first one. So a definition can be written down as its name, an equals sign and its
value, with blanks wherever one likes, and is read back from that.
-/

namespace ShaderAssembly

namespace MacroOp

open Text (trim Trimmed AllBlank)

/-- A name and a value that a definition can have. -/
structure Definable (name value : String) : Prop where
  trimmedName : Trimmed name
  unsplit : '=' ∉ name.toList
  trimmedValue : Trimmed value

instance (name value : String) : Decidable (Definable name value) :=
  decidable_of_iff (Trimmed name ∧ '=' ∉ name.toList ∧ Trimmed value)
    ⟨fun ⟨hname, hunsplit, hvalue⟩ => ⟨hname, hunsplit, hvalue⟩,
      fun h => ⟨h.trimmedName, h.unsplit, h.trimmedValue⟩⟩

variable {text name value before after w w' w₁ w₂ w₃ w₄ : String}

/-! ### The two forms of a definition -/

theorem ofDefinition_name (h : '=' ∉ text.toList) : ofDefinition text = define (trim text) "" := by
  rw [ofDefinition, Text.splitFirst_of_not_mem h]

theorem ofDefinition_pair (h : '=' ∉ before.toList) :
    ofDefinition (before ++ "=" ++ after) = define (trim before) (trim after) := by
  have hsplit : Text.splitFirst '=' (before ++ "=" ++ after).toList
      = some (before.toList, after.toList) := by
    rw [String.toList_append, String.toList_append, List.append_assoc]
    exact Text.splitFirst_append_cons h after.toList
  rw [ofDefinition, hsplit]
  dsimp only
  rw [String.ofList_toList, String.ofList_toList]

/-- Every text is of one of the two forms. -/
theorem unsplit_or_exists_pair (text : String) :
    '=' ∉ text.toList ∨ ∃ before after, '=' ∉ before.toList ∧ text = before ++ "=" ++ after := by
  by_cases h : '=' ∈ text.toList
  · obtain ⟨before, after, htext, hbefore⟩ := List.eq_append_cons_of_mem h
    refine .inr ⟨String.ofList before, String.ofList after, by rwa [String.toList_ofList], ?_⟩
    rw [← String.toList_inj, htext]
    simp
  · exact .inl h

theorem definable_of_unsplit (h : '=' ∉ before.toList) (after : String) :
    Definable (trim before) (trim after) :=
  ⟨Text.trimmed_trim before, fun hmem => h (Text.mem_of_mem_trim hmem), Text.trimmed_trim after⟩

theorem exists_definable (text : String) :
    ∃ name value, ofDefinition text = define name value ∧ Definable name value := by
  rcases unsplit_or_exists_pair text with h | ⟨before, after, h, rfl⟩
  · exact ⟨trim text, "", ofDefinition_name h, definable_of_unsplit h ""⟩
  · exact ⟨trim before, trim after, ofDefinition_pair h, definable_of_unsplit h after⟩

/-! ### Blanks around the parts -/

theorem unsplit_of_allBlank (h : AllBlank w) : '=' ∉ w.toList := fun hmem => by
  have hblank := h '=' hmem
  revert hblank
  decide

theorem unsplit_padded (hw : AllBlank w) (hw' : AllBlank w') (h : '=' ∉ name.toList) :
    '=' ∉ (w ++ name ++ w').toList := by
  rw [String.toList_append, String.toList_append, List.mem_append, List.mem_append]
  rintro ((hmem | hmem) | hmem)
  · exact unsplit_of_allBlank hw hmem
  · exact h hmem
  · exact unsplit_of_allBlank hw' hmem

theorem trim_padded_of_trimmed (hw : AllBlank w) (hw' : AllBlank w') (h : Trimmed value) :
    trim (w ++ value ++ w') = value := by
  rw [Text.trim_padded hw hw', Text.trim_of_trimmed h]

theorem ofDefinition_padded_name (h : Definable name value) (hw : AllBlank w) (hw' : AllBlank w') :
    ofDefinition (w ++ name ++ w') = define name "" := by
  rw [ofDefinition_name (unsplit_padded hw hw' h.unsplit),
    trim_padded_of_trimmed hw hw' h.trimmedName]

theorem ofDefinition_padded_pair (h : Definable name value) (hw₁ : AllBlank w₁)
    (hw₂ : AllBlank w₂) (hw₃ : AllBlank w₃) (hw₄ : AllBlank w₄) :
    ofDefinition (w₁ ++ name ++ w₂ ++ "=" ++ w₃ ++ value ++ w₄) = define name value := by
  have hgroup : w₁ ++ name ++ w₂ ++ "=" ++ w₃ ++ value ++ w₄
      = (w₁ ++ name ++ w₂) ++ "=" ++ (w₃ ++ value ++ w₄) := by
    simp only [String.append_assoc]
  rw [hgroup, ofDefinition_pair (unsplit_padded hw₁ hw₂ h.unsplit),
    trim_padded_of_trimmed hw₁ hw₂ h.trimmedName, trim_padded_of_trimmed hw₃ hw₄ h.trimmedValue]

/-- **Definitions read back.** Whatever text a definition is read from, its name and its value are
trimmed and the name has no equals sign. Every such pair is what is read from the name, an equals
sign and the value, with any blanks around the two, and from the name alone, with any blanks around
it, for a value that is empty. So a definition that was read is had back from its own name and
value. -/
theorem definitions_read_back :
    (∀ text, ∃ name value, ofDefinition text = define name value ∧ Definable name value) ∧
    (∀ name value, Definable name value →
      ∀ w₁ w₂ w₃ w₄, AllBlank w₁ → AllBlank w₂ → AllBlank w₃ → AllBlank w₄ →
        ofDefinition (w₁ ++ name ++ w₂ ++ "=" ++ w₃ ++ value ++ w₄) = define name value ∧
        ofDefinition (w₁ ++ name ++ w₂) = define name "") ∧
    ∀ text name value, ofDefinition text = define name value →
      ofDefinition (name ++ "=" ++ value) = define name value := by
  refine ⟨exists_definable, fun name value h w₁ w₂ w₃ w₄ hw₁ hw₂ hw₃ hw₄ => ⟨?_, ?_⟩,
    fun text name value hread => ?_⟩
  · exact ofDefinition_padded_pair h hw₁ hw₂ hw₃ hw₄
  · exact ofDefinition_padded_name h hw₁ hw₂
  · obtain ⟨name', value', hread', h⟩ := exists_definable text
    obtain ⟨rfl, rfl⟩ := define.inj (hread.symm.trans hread')
    have hnone : AllBlank "" := fun c hc => absurd hc List.not_mem_nil
    have hpair := ofDefinition_padded_pair h hnone hnone hnone hnone
    simpa only [String.empty_append, String.append_empty] using hpair

/-- A value that starts and ends with an equals sign, between blanks of several kinds. -/
theorem equalsSigns_read_back :
    Definable "A B" "=b=" ∧ AllBlank "\u2003" ∧ AllBlank "\t" ∧ AllBlank "" ∧ AllBlank " \n" ∧
    ofDefinition "\u2003A B\t==b= \n" = define "A B" "=b=" ∧
    ofDefinition "A B==b=" = define "A B" "=b=" := by
  have hpair : Definable "A B" "=b=" := by decide +kernel
  have hquad : AllBlank "\u2003" := by decide
  have htab : AllBlank "\t" := by decide
  have hnone : AllBlank "" := by decide
  have hbreak : AllBlank " \n" := by decide
  have hread : ofDefinition "\u2003A B\t==b= \n" = define "A B" "=b=" :=
    (definitions_read_back.2.1 "A B" "=b=" hpair _ _ _ _ hquad htab hnone hbreak).1
  exact ⟨hpair, hquad, htab, hnone, hbreak, hread, definitions_read_back.2.2 _ _ _ hread⟩

end MacroOp

end ShaderAssembly
