import Lookalike.Proofs.Text.Normal
import Lookalike.Source.Lexer
import Lookalike.Source.Stream
import Mathlib.Data.List.Basic

/-!
# Names in tokens and trees

A name is the compatibility form of what spells one, and so it is a word.  Here it is told of every
value that reading a source deals with, from tokens to trees, whether all texts that stand in it as
names are names; and it is proved of the tokens of a text.
-/

namespace Lookalike.Source

/-! ### Names -/

/-- Whether letters spell a name: letters, digits and underscores of ASCII, or an identifier. -/
def IsNameSpelling (letters : List Char) : Prop :=
  (∀ letter ∈ letters, isNamePart letter = true ∧ letter.toNat < 128) ∨ isIdentifier letters = true

/-- Whether a text is a name. -/
def IsName (text : String) : Prop :=
  ∃ spelling : String, IsNameSpelling spelling.toList ∧ text = nameOf spelling

theorem isUnnamable_of_isNamePart {letter : Char} (part : isNamePart letter = true)
    (lt : letter.toNat < 128) : isUnnamable letter.toNat = false := by
  have between (low high : ℕ) (namable : isNamableRange (low, high) = true)
      (ge : low ≤ letter.toNat) (le : letter.toNat ≤ high) : isUnnamable letter.toNat = false :=
    isUnnamable_eq_false_of_range namable ge le
  simp only [isNamePart, isDigit, Bool.or_eq_true, Bool.and_eq_true, decide_eq_true_eq,
    Char.le_def, UInt32.le_iff_toNat_le] at part
  rcases part with (((rfl | digit) | small) | capital) | wide
  · decide
  · exact between 0x30 0x39 (by decide) digit.1 digit.2
  · exact between 0x61 0x7A (by decide) small.1 small.2
  · exact between 0x41 0x5A (by decide) capital.1 capital.2
  · omega

theorem IsName.isWord {text : String} (name : IsName text) : IsWord text := by
  rcases name with ⟨spelling, spelled, rfl⟩
  intro letter mem
  rw [nameOf, String.toList_ofList] at mem
  refine isWordLetter_of_mem_compatibilityNormal ?_ mem
  intro letter' mem'
  rcases spelled with ascii | identifier
  · exact isUnnamable_of_isNamePart (ascii letter' mem').1 (ascii letter' mem').2
  · exact isUnnamable_of_isIdentifier identifier mem'

/-! ### Values in which names stand -/

/-- Values in which names can stand, and whether all that stands in one as a name is a name. -/
class NameBearer (Value : Type) where
  WellNamed : Value → Prop

export NameBearer (WellNamed)

instance : NameBearer String := ⟨IsName⟩

instance : NameBearer Unit := ⟨fun _ => True⟩

instance : NameBearer Bool := ⟨fun _ => True⟩

instance : NameBearer ℕ := ⟨fun _ => True⟩

instance : NameBearer Position := ⟨fun _ => True⟩

instance : NameBearer Cursor := ⟨fun _ => True⟩

instance : NameBearer TextLiteral := ⟨fun _ => True⟩

section

variable {Value Value' : Type} [NameBearer Value] [NameBearer Value']

instance : NameBearer (List Value) := ⟨fun values => ∀ value ∈ values, WellNamed value⟩

instance : NameBearer (Option Value) := ⟨fun value? => ∀ value ∈ value?, WellNamed value⟩

instance : NameBearer (Value × Value') := ⟨fun both => WellNamed both.1 ∧ WellNamed both.2⟩

@[simp]
theorem wellNamed_bool (value : Bool) : WellNamed value := trivial

@[simp]
theorem wellNamed_nat (value : ℕ) : WellNamed value := trivial

@[simp]
theorem wellNamed_textLiteral (value : TextLiteral) : WellNamed value := trivial

theorem wellNamed_list {values : List Value} :
    WellNamed values ↔ ∀ value ∈ values, WellNamed value := Iff.rfl

@[simp]
theorem wellNamed_nil : WellNamed ([] : List Value) := List.forall_mem_nil _

@[simp]
theorem wellNamed_cons {value : Value} {values : List Value} :
    WellNamed (value :: values) ↔ WellNamed value ∧ WellNamed values :=
  List.forall_mem_cons

@[simp]
theorem wellNamed_append {values values' : List Value} :
    WellNamed (values ++ values') ↔ WellNamed values ∧ WellNamed values' :=
  List.forall_mem_append

@[simp]
theorem wellNamed_reverse {values : List Value} : WellNamed values.reverse ↔ WellNamed values := by
  simp only [wellNamed_list, List.mem_reverse]

@[simp]
theorem wellNamed_none : WellNamed (none : Option Value) := nofun

@[simp]
theorem wellNamed_some {value : Value} : WellNamed (some value) ↔ WellNamed value := by
  simp [WellNamed]

@[simp]
theorem wellNamed_toList {value? : Option Value} : WellNamed value?.toList ↔ WellNamed value? := by
  cases value? <;> simp

@[simp]
theorem wellNamed_pair {value : Value} {value' : Value'} :
    WellNamed (value, value') ↔ WellNamed value ∧ WellNamed value' := Iff.rfl

end

/-! ### Trees -/

instance : NameBearer Parameter := ⟨fun parameter => IsName parameter.name⟩

instance : NameBearer Parameters :=
  ⟨fun parameters => WellNamed parameters.positionalOnly ∧ WellNamed parameters.positional ∧
    WellNamed parameters.keywordOnly ∧ WellNamed parameters.variadic ∧
    WellNamed parameters.keywords⟩

namespace Tree

mutual

/-- Whether all that stands in a tree as a name is a name. -/
def IsWellNamed : Tree → Prop
  | .identifier name _ _ => IsName name
  | .compound _ parts => areWellNamed parts
  | .function name _ decorators parameters defaults annotations body =>
      IsName name ∧ areWellNamed decorators ∧ WellNamed parameters ∧ areWellNamed defaults ∧
        areWellNamed annotations ∧ areWellNamed body
  | .lambda _ parameters defaults body =>
      WellNamed parameters ∧ areWellNamed defaults ∧ IsWellNamed body
  | .classDefinition name _ decorators bases keywordValues body =>
      IsName name ∧ areWellNamed decorators ∧ areWellNamed bases ∧ areWellNamed keywordValues ∧
        areWellNamed body
  | .handler alias? _ parts => WellNamed alias? ∧ areWellNamed parts
  | .importation aliases _ => WellNamed aliases
  | .declaration names => WellNamed names
  | .capture name? _ parts => WellNamed name? ∧ areWellNamed parts

/-- Whether all that stands in several trees as names are names. -/
def areWellNamed : List Tree → Prop
  | [] => True
  | tree :: trees => IsWellNamed tree ∧ areWellNamed trees

end

instance : NameBearer Tree := ⟨IsWellNamed⟩

@[simp]
theorem areWellNamed_iff {trees : List Tree} : areWellNamed trees ↔ WellNamed trees := by
  induction trees with
  | nil => simp [areWellNamed]
  | cons tree trees ih =>
      rw [areWellNamed, ih, wellNamed_cons]
      rfl

section

variable {name : String} {position : Position} {stored : Bool} {construct : Construct}
  {parts decorators defaults annotations body bases keywordValues : List Tree}
  {parameters : Parameters} {result : Tree} {alias? : Option String} {names : List String}

@[simp]
theorem wellNamed_identifier : WellNamed (identifier name position stored) ↔ WellNamed name := by
  rfl

@[simp]
theorem wellNamed_compound : WellNamed (compound construct parts) ↔ WellNamed parts :=
  areWellNamed_iff

@[simp]
theorem wellNamed_constant : WellNamed constant := by simp [constant]

@[simp]
theorem wellNamed_function :
    WellNamed (function name position decorators parameters defaults annotations body) ↔
      WellNamed name ∧ WellNamed decorators ∧ WellNamed parameters ∧ WellNamed defaults ∧
        WellNamed annotations ∧ WellNamed body := by
  simp only [← areWellNamed_iff]
  rfl

@[simp]
theorem wellNamed_lambda :
    WellNamed (lambda position parameters defaults result) ↔
      WellNamed parameters ∧ WellNamed defaults ∧ WellNamed result := by
  simp only [← areWellNamed_iff]
  rfl

@[simp]
theorem wellNamed_classDefinition :
    WellNamed (classDefinition name position decorators bases keywordValues body) ↔
      WellNamed name ∧ WellNamed decorators ∧ WellNamed bases ∧ WellNamed keywordValues ∧
        WellNamed body := by
  simp only [← areWellNamed_iff]
  rfl

@[simp]
theorem wellNamed_handler :
    WellNamed (handler alias? position parts) ↔ WellNamed alias? ∧ WellNamed parts := by
  simp only [← areWellNamed_iff]
  rfl

@[simp]
theorem wellNamed_importation : WellNamed (importation names position) ↔ WellNamed names := by
  rfl

@[simp]
theorem wellNamed_declaration : WellNamed (declaration names) ↔ WellNamed names := by
  rfl

@[simp]
theorem wellNamed_capture :
    WellNamed (capture alias? position parts) ↔ WellNamed alias? ∧ WellNamed parts := by
  simp only [← areWellNamed_iff]
  rfl

end

mutual

/-- Taken as a target, a phrase has the same names in it. -/
theorem wellNamed_of_asTarget? {tree target : Tree} (named : WellNamed tree)
    (targetEq : tree.asTarget? = some target) : WellNamed target := by
  cases tree with
  | identifier name position stored =>
      rw [asTarget?, Option.some.injEq] at targetEq
      rw [← targetEq]
      exact wellNamed_identifier.mpr (wellNamed_identifier.mp named)
  | compound construct parts =>
      rw [wellNamed_compound] at named
      have kept (construct : Construct) (targetEq : some (compound construct parts) = some target) :
          WellNamed target := by
        rw [← Option.some.inj targetEq]
        exact wellNamed_compound.mpr named
      have unpacked (construct : Construct)
          (targetEq : (asTargets? parts).map (compound construct ·) = some target) :
          WellNamed target := by
        rcases Option.map_eq_some_iff.mp targetEq with ⟨targets, targetsEq, rfl⟩
        exact wellNamed_compound.mpr (wellNamed_of_asTargets? named targetsEq)
      rw [asTarget?.eq_def] at targetEq
      dsimp only at targetEq
      split at targetEq
      · exact kept .member targetEq
      · exact kept .subscript targetEq
      · exact unpacked .tuple targetEq
      · exact unpacked .list targetEq
      · exact unpacked .starred targetEq
      · cases targetEq
  | _ => simp [asTarget?] at targetEq

/-- Taken as targets, phrases have the same names in them. -/
theorem wellNamed_of_asTargets? {trees targets : List Tree} (named : WellNamed trees)
    (targetsEq : asTargets? trees = some targets) : WellNamed targets := by
  cases trees with
  | nil =>
      rw [asTargets?, Option.some.injEq] at targetsEq
      rw [← targetsEq]
      exact wellNamed_nil
  | cons tree trees =>
      simp only [asTargets?, Option.bind_eq_bind, Option.bind_eq_some_iff, Option.pure_def,
        Option.some.injEq] at targetsEq
      rcases targetsEq with ⟨target, targetEq, rest, restEq, rfl⟩
      rw [wellNamed_cons] at named ⊢
      exact ⟨wellNamed_of_asTarget? named.1 targetEq, wellNamed_of_asTargets? named.2 restEq⟩

end

theorem wellNamed_of_asSingleTarget? {tree target : Tree} (named : WellNamed tree)
    (targetEq : tree.asSingleTarget? = some target) : WellNamed target := by
  cases tree with
  | identifier name position stored =>
      rw [asSingleTarget?, Option.some.injEq] at targetEq
      rw [← targetEq]
      exact wellNamed_identifier.mpr (wellNamed_identifier.mp named)
  | compound construct parts =>
      rw [asSingleTarget?] at targetEq
      split at targetEq
      · rw [← Option.some.inj targetEq]
        exact wellNamed_compound.mpr (wellNamed_compound.mp named)
      · cases targetEq
  | _ => simp [asSingleTarget?] at targetEq

end Tree

/-! ### Tokens -/

instance : NameBearer Lexeme where
  WellNamed
    | .name spelling => IsName (nameOf spelling)
    | _ => True

instance : NameBearer Token := ⟨fun token => WellNamed token.lexeme⟩

instance : NameBearer Stream := ⟨fun stream => WellNamed stream.tokens⟩

theorem accept_of_mem_spanFrom {accept : Char → Bool} {letters found : List Char}
    {position : Position} (accepted : ∀ letter ∈ found, accept letter = true) :
    ∀ letter ∈ (Cursor.spanFrom accept letters position found).1, accept letter = true := by
  induction letters generalizing position found with
  | nil =>
      intro letter mem
      exact accepted letter (List.mem_reverse.mp mem)
  | cons first letters ih =>
      rw [Cursor.spanFrom]
      split
      · rename_i firstAccepted
        exact ih (List.forall_mem_cons.mpr ⟨firstAccepted, accepted⟩)
      · intro letter mem
        exact accepted letter (List.mem_reverse.mp mem)

theorem wellNamed_plain {spelling : String} {word : List Char} {behind behind' : Cursor}
    {lexeme : Lexeme} (spellingEq : spelling = String.ofList word)
    (parts : ∀ letter ∈ word, isNamePart letter = true)
    (plainEq : readWord.plain spelling word behind = some (lexeme, behind')) :
    WellNamed lexeme := by
  have spelled (isName : IsNameSpelling word) : WellNamed (Lexeme.name spelling) := by
    refine ⟨spelling, ?_, rfl⟩
    rw [spellingEq, String.toList_ofList]
    exact isName
  rw [readWord.plain] at plainEq
  split at plainEq
  · rename_i ascii
    rw [← (Prod.mk.inj (Option.some.inj plainEq)).1]
    split
    · exact trivial
    · refine spelled (Or.inl ?_)
      intro letter mem
      exact ⟨parts letter mem, of_decide_eq_true (List.all_eq_true.mp ascii letter mem)⟩
  · split at plainEq
    · rename_i identifier
      rw [← (Prod.mk.inj (Option.some.inj plainEq)).1]
      exact spelled (Or.inr identifier)
    · cases plainEq

theorem wellNamed_readWord {cursor behind : Cursor} {lexeme : Lexeme}
    (wordEq : readWord cursor = some (lexeme, behind)) : WellNamed lexeme := by
  have parts : ∀ letter ∈ (cursor.span isNamePart).1, isNamePart letter = true :=
    accept_of_mem_spanFrom (List.forall_mem_nil _)
  have marked {marks : List Char} {quote : Char} {inside : Cursor}
      (textEq : ((readText marks quote inside).bind fun found =>
        some (Lexeme.text found.1, found.2)) = some (lexeme, behind)) : WellNamed lexeme := by
    rcases Option.bind_eq_some_iff.mp textEq with ⟨found, -, foundEq⟩
    rw [← (Prod.mk.inj (Option.some.inj foundEq)).1]
    exact trivial
  rw [readWord] at wordEq
  dsimp only at wordEq
  split at wordEq
  · split at wordEq
    · exact marked wordEq
    · exact wellNamed_plain rfl parts wordEq
  · split at wordEq
    · exact marked wordEq
    · exact wellNamed_plain rfl parts wordEq
  · exact wellNamed_plain rfl parts wordEq

theorem wellNamed_readOperator {scan scan' : Scan} {cursor : Cursor} {token : Token}
    (operatorEq : readOperator scan cursor = some (token, scan')) : WellNamed token := by
  simp only [readOperator, Option.bind_eq_bind, Option.bind_eq_some_iff] at operatorEq
  rcases operatorEq with ⟨operator, -, operatorEq⟩
  split at operatorEq
  · cases operatorEq
  · rcases Option.bind_eq_some_iff.mp operatorEq with ⟨brackets, -, tokenEq⟩
    rw [← (Prod.mk.inj (Option.some.inj tokenEq)).1]
    exact trivial

theorem wellNamed_readToken {scan scan' : Scan} {cursor : Cursor} {token : Token}
    (tokenEq : readToken scan cursor = some (token, scan')) : WellNamed token := by
  rw [readToken] at tokenEq
  dsimp only at tokenEq
  split at tokenEq
  · rcases Option.map_eq_some_iff.mp tokenEq with ⟨found, -, foundEq⟩
    rw [← (Prod.mk.inj foundEq).1]
    exact trivial
  · split at tokenEq
    · rcases Option.map_eq_some_iff.mp tokenEq with ⟨⟨lexeme, behind⟩, wordEq, foundEq⟩
      rw [← (Prod.mk.inj foundEq).1]
      exact wellNamed_readWord wordEq
    · split at tokenEq
      · rcases Option.map_eq_some_iff.mp tokenEq with ⟨found, -, foundEq⟩
        rw [← (Prod.mk.inj foundEq).1]
        exact trivial
      · rcases Option.map_eq_some_iff.mp tokenEq with ⟨found, -, foundEq⟩
        rw [← (Prod.mk.inj foundEq).1]
        exact trivial
      · exact wellNamed_readOperator tokenEq

/-- Indentation makes tokens without names. -/
theorem wellNamed_beginLine {scan scan' : Scan} {tokens : List Token}
    (begun : beginLine scan = some (scan', tokens)) : WellNamed tokens := by
  simp only [beginLine, Option.bind_eq_bind, Option.bind_eq_some_iff] at begun
  rcases begun with ⟨⟨line, cursor⟩, -, begun⟩
  split at begun
  · rw [← (Prod.mk.inj (Option.some.inj begun)).2]
    exact wellNamed_nil
  · split at begun
    · rw [← (Prod.mk.inj (Option.some.inj begun)).2]
      exact wellNamed_nil
    · rcases Option.bind_eq_some_iff.mp begun with ⟨⟨blocks, marks⟩, entered, marksEq⟩
      rw [← (Prod.mk.inj (Option.some.inj marksEq)).2]
      rw [enterLine] at entered
      dsimp only at entered
      split at entered
      · split at entered
        · cases entered
        · rw [← (Prod.mk.inj (Option.some.inj entered)).2]
          exact wellNamed_cons.mpr ⟨trivial, wellNamed_nil⟩
      · rcases Option.bind_eq_some_iff.mp entered with ⟨⟨blocks', closed⟩, -, closedEq⟩
        rw [← (Prod.mk.inj (Option.some.inj closedEq)).2]
        intro token mem
        rw [List.eq_of_mem_replicate mem]
        exact trivial

theorem wellNamed_continueLine {scan scan' : Scan} {tokens : List Token}
    (continued : continueLine scan = some (.more tokens scan')) : WellNamed tokens := by
  rw [continueLine] at continued
  dsimp only at continued
  split at continued
  · split at continued
    · cases continued
    · cases continued
  · rw [← (Step.more.inj (Option.some.inj continued)).1]
    split
    · exact wellNamed_cons.mpr ⟨trivial, wellNamed_nil⟩
    · exact wellNamed_nil
  · rw [← (Step.more.inj (Option.some.inj continued)).1]
    exact wellNamed_nil
  · cases continued
  · rcases Option.bind_eq_some_iff.mp continued with ⟨⟨token, behind⟩, tokenEq, stepEq⟩
    rw [← (Step.more.inj (Option.some.inj stepEq)).1]
    exact wellNamed_cons.mpr ⟨wellNamed_readToken tokenEq, wellNamed_nil⟩

theorem wellNamed_readTokens {steps : ℕ} {scan : Scan} {found tokens : List Token}
    (named : WellNamed found) (tokensEq : readTokens steps scan found = some tokens) :
    WellNamed tokens := by
  induction steps generalizing scan found with
  | zero => cases tokensEq
  | succ steps ih =>
      rw [readTokens] at tokensEq
      split at tokensEq
      · split at tokensEq
        · cases tokensEq
        · rename_i begun
          exact ih (wellNamed_append.mpr
            ⟨wellNamed_reverse.mpr (wellNamed_beginLine begun), named⟩) tokensEq
      · split at tokensEq
        · cases tokensEq
        · rw [← Option.some.inj tokensEq, wellNamed_append, wellNamed_reverse]
          refine ⟨named, ?_⟩
          intro token mem
          rw [List.eq_of_mem_replicate mem]
          exact trivial
        · rename_i continued
          exact ih (wellNamed_append.mpr
            ⟨wellNamed_reverse.mpr (wellNamed_continueLine continued), named⟩) tokensEq

/-- The tokens of a text have names where names stand. -/
theorem wellNamed_tokensOf {cursor : Cursor} {tokens : List Token}
    (tokensEq : tokensOf cursor = some tokens) : WellNamed tokens :=
  wellNamed_readTokens wellNamed_nil tokensEq

end Lookalike.Source
