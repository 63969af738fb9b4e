import SqlRegexp.Proofs.Yaml.Content
import SqlRegexp.Proofs.Yaml.Graph
import SqlRegexp.Proofs.Yaml.Scalar
import SqlRegexp.Yaml.Reading

/-!
The faults of a document that no rule foresees, in the reference reader.

`StrayIn` lists them, and **there are no others** (`strayIn_of_valueOfText`): an escape that is out of all range, a
scalar that its kind does not foresee, and a node that stands for itself. A scalar of the second sort has its kind from
a tag, as `!!bool maybe` has, unless it ends with a line feed or is a number in very many parts; the kind may be that of
a mapping with a default value, for which the scalar stands.
-/

namespace SqlRegexp.Yaml

open Relation SqlRegexp.Text

/-- The faults that a text may have though no rule foresees them, and where they come from. -/
inductive StrayIn (text : List Char) : Stray → Prop
  | code {ds rest : List Char} (h : '\\' :: 'U' :: (ds ++ rest) <:+ text) (hlength : ds.length = 8)
    (hdigits : ∀ d ∈ ds, (hexValue? d).isSome = true) (hcode : 0x80000000 ≤ ofDigits 16 (ds.filterMap hexValue?)) :
    StrayIn text .codeTooLarge
  | scalar {cs : List Char} {d : Document} {id id' : Nat} {e : ContentError} {f : Stray}
    (hdocument : Document.ofText? text = .ok (some d)) (hstands : d.nodes.Stands id id')
    (hscalar : d.nodes.body id' = .scalar cs) (h : Scalar.Unforeseen (d.nodes.kind id) cs e)
    (hlooks : d.nodes.kind id = Kind.implicit true cs → cs.getLast? = some '\n' ∨ e = .weightTooLarge)
    (hf : ReadError.ofContent e = .stray f) : StrayIn text f
  | endless {d : Document} {id again : Nat} (hdocument : Document.ofText? text = .ok (some d))
    (hstands : d.nodes.Stands id again) (hagain : TransGen d.nodes.DefaultOf again again) : StrayIn text .tooDeep

variable {text : List Char}

theorem raw_of_ofContent {e : ContentError} {f : Stray} (h : ReadError.ofContent e = .stray f) : e.Raw := by
  cases e with
  | emptyNumber => exact .emptyNumber
  | unknownTruth word => exact .unknownTruth word
  | notADate => exact .notADate
  | weightTooLarge => exact .weightTooLarge
  | endless => exact .endless
  | malformed | numeral e | notReal cs | date f => cases h

theorem strayIn_of_ofText {flaw : Flaw} {f : Stray} (h : Document.ofText? text = .error flaw)
    (hf : ReadError.ofFlaw flaw = .stray f) : StrayIn text f := by
  cases Document.ofText?_flaw h with
  | malformed => cases hf
  | noCharacter htext hlength hdigits _ =>
    unfold ReadError.ofFlaw at hf
    dsimp only at hf
    split at hf
    · cases hf
    · next hcode =>
      cases hf
      exact .code htext hlength hdigits (by omega)

theorem strayIn_of_value {d : Document} {depth : Nat} {e : ContentError} {f : Stray}
    (h : Document.ofText? text = .ok (some d)) (hvalue : d.value depth = .error e)
    (hf : ReadError.ofContent e = .stray f) : StrayIn text f := by
  cases Document.value_error hvalue with
  | malformed => cases hf
  | endless hstands hagain =>
    cases hf
    exact .endless h hstands hagain
  | scalar hstands hscalar hvalue =>
    have hunforeseen := Scalar.value_unforeseen_iff.mp ⟨hvalue, raw_of_ofContent hf⟩
    exact .scalar h hstands hscalar hunforeseen (fun hkind => Scalar.looks_of_unforeseen (hkind ▸ hunforeseen)) hf

/-- **A fault of a text that no rule foresees is one of those listed.** -/
theorem strayIn_of_valueOfText {f : Stray} (h : valueOfText text = .error (.stray f)) : StrayIn text f := by
  unfold valueOfText at h
  cases hchars : text.all isTextChar with
  | false =>
    rw [hchars] at h
    cases h
  | true =>
    rw [hchars] at h
    change ((Document.ofText? text).mapError ReadError.ofFlaw).bind valueOf? = _ at h
    -- the reading of the document fails, or the making of its value
    cases hd : Document.ofText? text with
    | error flaw =>
      rw [hd] at h
      exact strayIn_of_ofText hd (Except.error.inj h)
    | ok d? =>
      rw [hd] at h
      cases d? with
      | none => cases h
      | some d =>
        change (d.value depth).mapError ReadError.ofContent = _ at h
        cases hv : d.value depth with
        | ok v =>
          rw [hv] at h
          cases h
        | error e =>
          rw [hv] at h
          exact strayIn_of_value hd hv (Except.error.inj h)

/-- The text in bytes decides whether they have such a fault. -/
theorem strayIn_of_valueOfBytes {bs : List UInt8} {f : Stray} (h : valueOfBytes bs = .error (.stray f)) :
    ∃ cs, Utf8.decode bs = .ok cs ∧ StrayIn (settleLineEnds cs) f := by
  unfold valueOfBytes at h
  cases hdecode : Utf8.decode bs with
  | error e =>
    rw [hdecode] at h
    cases h
  | ok cs =>
    rw [hdecode] at h
    exact ⟨cs, rfl, strayIn_of_valueOfText h⟩

end SqlRegexp.Yaml
