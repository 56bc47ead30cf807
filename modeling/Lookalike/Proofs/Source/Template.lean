import Lookalike.Proofs.Source.Reader
import Lookalike.Source.Template

/-!
# Names in templates

The expression in a field of a template is read from tokens of its own, which are those of a text
again.  So the fields of a template have names where names stand, whatever the template.
-/

namespace Lookalike.Source

section

variable {expression : Reader Tree} (expressionKeeps : expression.Keeps)

include expressionKeeps

/-- The tokens of an expression in a field are those of a text again. -/
theorem yields_readFieldExpression (text : List Char) (position : Position) :
    Yields (readFieldExpression expression text position) := by
  rw [readFieldExpression]
  refine .ite .error ?_
  split
  · exact .error
  · rename_i tokensEq
    split
    · exact .error
    · rename_i read
      exact .ok (expressionKeeps (wellNamed_tokensOf tokensEq) read).1

theorem yields_readField {format : FormatReader} (formatYields : ∀ cursor, Yields (format cursor))
    (cursor : Cursor) : Yields (readField expression format cursor) := by
  have closed {condition : Prop} [Decidable condition] {value : Tree} {parts : List Tree}
      {behind : Cursor} (valueNamed : WellNamed value) (partsNamed : WellNamed parts) :
      Yields (if condition then .ok (.compound .field (value :: parts), behind)
        else .error .malformed : Except Fault (Tree × Cursor)) :=
    .ite (.ok ⟨Tree.wellNamed_compound.mpr (wellNamed_cons.mpr ⟨valueNamed, partsNamed⟩), trivial⟩)
      .error
  rw [readField]
  dsimp only
  split
  · refine .bind (yields_readFieldExpression expressionKeeps _ _) fun value valueNamed => ?_
    split
    · refine .ite ?_ (closed valueNamed wellNamed_nil)
      refine .bind (formatYields _) fun found foundNamed => ?_
      refine closed valueNamed (wellNamed_cons.mpr ⟨?_, wellNamed_nil⟩)
      exact Tree.wellNamed_compound.mpr foundNamed.1
    · exact .error
  · exact .error

omit expressionKeeps

theorem yields_readPieces {field : Cursor → Except Fault (Tree × Cursor)} (isRaw isFormat : Bool)
    (fieldYields : ∀ cursor, Yields (field cursor)) (steps : ℕ) {found : List Tree}
    (named : WellNamed found) (cursor : Cursor) :
    Yields (readPieces isRaw isFormat field steps found cursor) := by
  induction steps generalizing found cursor with
  | zero => exact .error
  | succ steps ih =>
      rw [readPieces]
      split
      · exact .error
      · refine .ite .error ?_
        split
        · exact ih named _
        · split
          · exact .error
          · rename_i fieldEq
            exact ih (wellNamed_cons.mpr ⟨(fieldYields _ _ fieldEq).1, named⟩) _
        · exact .ite .error (.ok ⟨wellNamed_reverse.mpr named, trivial⟩)
        · exact .ok ⟨wellNamed_reverse.mpr named, trivial⟩

include expressionKeeps

theorem yields_readTemplate (literal : TextLiteral) : Yields (readTemplate expression literal) := by
  have innermost := yields_readPieces literal.isRaw true
    (fun _ => (.error : Yields (.error .malformed))) (literal.body.length + 1) wellNamed_nil
  have format := yields_readPieces literal.isRaw true (yields_readField expressionKeeps innermost)
    (literal.body.length + 1) wellNamed_nil
  have fields := yields_readPieces literal.isRaw false (yields_readField expressionKeeps format)
    (literal.body.length + 1) wellNamed_nil
  exact .bind (fields _) fun found foundNamed => .ok foundNamed.1

theorem yields_readLiterals (literals : List TextLiteral) :
    Yields (readLiterals expression literals) := by
  have fieldsYield : Yields (literals.mapM fun literal =>
      if literal.isFormatted then readTemplate expression literal
      else if isPlainLiteral literal then pure []
      else throw .malformed) :=
    .mapM (fun literal => .ite (yields_readTemplate expressionKeeps literal)
      (.ite (.ok wellNamed_nil) .error)) literals
  rw [readLiterals]
  refine .ite .error (.bind fieldsYield fun fields fieldsNamed => .ite (.ok ?_) (.ok ?_))
  · refine Tree.wellNamed_compound.mpr ?_
    intro tree mem
    rcases List.mem_flatten.mp mem with ⟨found, foundMem, treeMem⟩
    exact fieldsNamed found foundMem tree treeMem
  · exact Tree.wellNamed_constant

end

end Lookalike.Source
