import Crosswalk.Formula.Grammar
import Crosswalk.Proofs.Formula.Whitelist

/-!
# Tokens and trees that differ in texts

The parser looks at tokens one after the other.  What it does with the first of them is the same
for tokens that differ in the texts of quotations alone, and the trees that it makes differ in
texts alone.

* `Syntax.shape` — **a tree without the texts in it.**
* `Same` — tokens that differ in texts alone, with lemmas for the ways in which they may begin.
* `SameTree`, `SameTrees`, `SameRest`, `SameResult`, `SameArguments` — results that differ in
  texts alone; `Keeps` says that a function has such results.
* `rel_joined` — quotations behind each other.
-/

namespace Crosswalk.Formula

/-! ## Shapes -/

mutual

/-- **A tree without the texts in it.** -/
def Syntax.shape : Syntax → Syntax
  | .literal (.text _ marked) => .literal (.text "" marked)
  | .literal l => .literal l
  | .name id => .name id
  | .unary op e => .unary op e.shape
  | .binary op l r => .binary op l.shape r.shape
  | .junction op es => .junction op (Syntax.shapes es)
  | .comparison e ops es => .comparison e.shape ops (Syntax.shapes es)
  | .choice c y n => .choice c.shape y.shape n.shape
  | .call f args keywords => .call f.shape (Syntax.shapes args) (keywords.map fun _ => "")
  | .foreign construct _ level => .foreign construct "" level

/-- Trees without the texts in them. -/
def Syntax.shapes : List Syntax → List Syntax
  | [] => []
  | e :: es => e.shape :: Syntax.shapes es

end

/-- **Tokens that differ in texts alone.** -/
inductive Same : List Token → List Token → Prop where
  | nil : Same [] []
  | cons (t : Token) {ts ts' : List Token} (h : Same ts ts') : Same (t :: ts) (t :: ts')
  | text (s s' : String) (marked : Bool) {ts ts' : List Token} (h : Same ts ts') :
      Same (.quotation (.text s marked) :: ts) (.quotation (.text s' marked) :: ts')

namespace Same

variable {ts ts' : List Token}

lemma refl (ts : List Token) : Same ts ts := by
  induction ts with
  | nil => exact .nil
  | cons t ts ih => exact .cons t ih

/-- Both begin with a token that is no quotation, or neither does. -/
lemma token_cases {t : Token} (ht : ∀ q, .quotation q ≠ t) (h : Same ts ts') :
    (∃ r r', ts = t :: r ∧ ts' = t :: r' ∧ Same r r') ∨
      ((∀ r, ts = t :: r → False) ∧ ∀ r, ts' = t :: r → False) := by
  cases h with
  | nil => exact Or.inr ⟨nofun, nofun⟩
  | text s s' marked h =>
      exact Or.inr ⟨fun r hr => ht _ (List.cons.inj hr).1,
        fun r hr => ht _ (List.cons.inj hr).1⟩
  | @cons u r r' h =>
      by_cases hu : u = t
      · exact Or.inl ⟨r, r', by rw [hu], by rw [hu], h⟩
      · exact Or.inr ⟨fun r hr => hu (List.cons.inj hr).1, fun r hr => hu (List.cons.inj hr).1⟩

lemma word_cases (w : String) (h : Same ts ts') :
    (∃ r r', ts = .word w :: r ∧ ts' = .word w :: r' ∧ Same r r') ∨
      ((∀ r, ts = .word w :: r → False) ∧ ∀ r, ts' = .word w :: r → False) :=
  h.token_cases nofun

lemma symbol_cases (s : String) (h : Same ts ts') :
    (∃ r r', ts = .symbol s :: r ∧ ts' = .symbol s :: r' ∧ Same r r') ∨
      ((∀ r, ts = .symbol s :: r → False) ∧ ∀ r, ts' = .symbol s :: r → False) :=
  h.token_cases nofun

/-- Both begin with a word and a symbol, or neither does. -/
lemma assigned_cases (s : String) (h : Same ts ts') :
    (∃ w r r', ts = .word w :: .symbol s :: r ∧ ts' = .word w :: .symbol s :: r' ∧
      Same r r') ∨
      ((∀ w r, ts = .word w :: .symbol s :: r → False) ∧
        ∀ w r, ts' = .word w :: .symbol s :: r → False) := by
  cases h with
  | nil => exact Or.inr ⟨nofun, nofun⟩
  | text s s' marked h => exact Or.inr ⟨nofun, nofun⟩
  | @cons t r r' h =>
      rcases h.symbol_cases s with ⟨r, r', rfl, rfl, hr⟩ | ⟨hne, hne'⟩
      · cases t with
        | word w => exact Or.inl ⟨w, r, r', rfl, rfl, hr⟩
        | _ => exact Or.inr ⟨nofun, nofun⟩
      · exact Or.inr ⟨fun w r hr => hne r (List.cons.inj hr).2,
          fun w r hr => hne' r (List.cons.inj hr).2⟩

/-- Both begin with two words, or neither does. -/
lemma words_cases (v w : String) (h : Same ts ts') :
    (∃ r r', ts = .word v :: .word w :: r ∧ ts' = .word v :: .word w :: r' ∧ Same r r') ∨
      ((∀ r, ts = .word v :: .word w :: r → False) ∧
        ∀ r, ts' = .word v :: .word w :: r → False) := by
  rcases h.word_cases v with ⟨s, s', rfl, rfl, hs⟩ | ⟨hne, hne'⟩
  · rcases hs.word_cases w with ⟨r, r', rfl, rfl, hr⟩ | ⟨hne, hne'⟩
    · exact Or.inl ⟨r, r', rfl, rfl, hr⟩
    · exact Or.inr ⟨fun r hr => hne r (List.cons.inj hr).2,
        fun r hr => hne' r (List.cons.inj hr).2⟩
  · exact Or.inr ⟨fun r => hne _, fun r => hne' _⟩

end Same

section Relations

variable {α β γ δ : Type} {R : α → β → Prop} {S : γ → δ → Prop} {x : Option α}
  {y : Option β}
  {f : α → Option γ} {g : β → Option δ}

/-- One computation behind the other. -/
lemma rel_bind (h : Option.Rel R x y) (hfg : ∀ a b, R a b → Option.Rel S (f a) (g b)) :
    Option.Rel S (x >>= f) (y >>= g) := by
  cases h with
  | none => exact .none
  | some h => exact hfg _ _ h

lemma rel_or {x' : Option α} {y' : Option β} (h : Option.Rel R x y) (h' : Option.Rel R x' y') :
    Option.Rel R (x.or x') (y.or y') := by
  cases h with
  | none => exact h'
  | some h => exact .some h

/-- Both fail, or both give something. -/
lemma rel_cases (h : Option.Rel R x y) :
    (x = none ∧ y = none) ∨ ∃ a b, x = some a ∧ y = some b ∧ R a b := by
  cases h with
  | none => exact Or.inl ⟨rfl, rfl⟩
  | some h => exact Or.inr ⟨_, _, rfl, rfl, h⟩

end Relations

/-! ## Results -/

/-- Results with tokens behind them that differ in texts alone, whatever the results are. -/
def SameRest {α : Type} (p q : α × List Token) : Prop := Same p.2 q.2

/-- Trees with tokens behind them that differ in texts alone. -/
def SameTree (p q : Syntax × List Token) : Prop := p.1.shape = q.1.shape ∧ Same p.2 q.2

/-- Lists of trees with tokens behind them that differ in texts alone. -/
def SameTrees (p q : List Syntax × List Token) : Prop :=
  Syntax.shapes p.1 = Syntax.shapes q.1 ∧ Same p.2 q.2

/-- A function whose results differ where the tokens do. -/
def Keeps {α : Type} (R : α → α → Prop) (f : List Token → α) : Prop :=
  ∀ ⦃ts ts' : List Token⦄, Same ts ts' → R (f ts) (f ts')

/-- A result that is the same, with tokens behind it that differ in texts alone. -/
def SameResult {α : Type} (p q : α × List Token) : Prop := p.1 = q.1 ∧ Same p.2 q.2

/-- Arguments by place and how many there are by name, with tokens behind them that differ in texts
alone. -/
def SameArguments (p q : List Syntax × List Layout × List Token) : Prop :=
  Syntax.shapes p.1 = Syntax.shapes q.1 ∧ p.2.1.length = q.2.1.length ∧ Same p.2.2 q.2.2

/-! ## Trees of one shape -/

section Trees

variable {e e' : Syntax} {es es' : List Syntax}

lemma isEmpty_eq (h : Syntax.shapes es = Syntax.shapes es') : es.isEmpty = es'.isEmpty := by
  cases es <;> cases es' <;> first | rfl | cases h

lemma shapes_cons (he : e.shape = e'.shape) (h : Syntax.shapes es = Syntax.shapes es') :
    Syntax.shapes (e :: es) = Syntax.shapes (e' :: es') := by
  rw [Syntax.shapes, Syntax.shapes, he, h]

lemma SameTrees.cons {p q : List Syntax × List Token} (h : SameTrees p q)
    (he : e.shape = e'.shape) :
    SameTrees (e :: p.1, p.2) (e' :: q.1, q.2) :=
  ⟨shapes_cons he h.1, h.2⟩

/-- The text of a foreign construct is no part of its shape. -/
lemma shape_foreign (construct : Construct) (text text' : Layout) (level : Level) :
    (Syntax.foreign construct text level).shape = (Syntax.foreign construct text' level).shape := by
  rw [Syntax.shape, Syntax.shape]

/-- Operands behind a first one, or none, make one shape. -/
lemma shape_junction (op : Junction) (he : e.shape = e'.shape)
    (h : Syntax.shapes es = Syntax.shapes es') :
    (if es.isEmpty then e else .junction op (e :: es)).shape
      = (if es'.isEmpty then e' else .junction op (e' :: es')).shape := by
  rw [isEmpty_eq h]
  split
  · exact he
  · simp only [Syntax.shape, Syntax.shapes, he, h]

lemma shape_comparison {ops ops' : List Relation} (he : e.shape = e'.shape) (hops : ops = ops')
    (h : Syntax.shapes es = Syntax.shapes es') :
    (if ops.isEmpty then e else .comparison e ops es).shape
      = (if ops'.isEmpty then e' else .comparison e' ops' es').shape := by
  subst hops
  split
  · exact he
  · simp only [Syntax.shape, he, h]

lemma shape_call {keywords keywords' : List Layout} (he : e.shape = e'.shape)
    (h : Syntax.shapes es = Syntax.shapes es') (hlength : keywords.length = keywords'.length) :
    (Syntax.call e es keywords).shape = (Syntax.call e' es' keywords').shape := by
  simp only [Syntax.shape, he, h, List.map_const', hlength]

lemma eq_name_of_shape {id : String} (h : e.shape = .name id) : e = .name id := by
  cases e with
  | literal l => cases l <;> cases h
  | name id => exact h
  | _ => cases h

lemma eq_foreign_of_shape {construct : Construct} {text : Layout} {level : Level}
    (h : e.shape = .foreign construct text level) :
    ∃ text', e = .foreign construct text' level := by
  cases e with
  | literal l => cases l <;> cases h
  | foreign construct text' level =>
      cases h
      exact ⟨text', rfl⟩
  | _ => cases h

lemma shape_tupleOf (h : Syntax.shapes es = Syntax.shapes es') :
    (tupleOf es).shape = (tupleOf es').shape := by
  rw [tupleOf, tupleOf, isEmpty_eq h]
  split <;> rfl

end Trees

/-! ## Reading the first tokens -/

section Tokens

variable {ts ts' : List Token}

lemma same_symbol? (s : String) (h : Same ts ts') :
    Option.Rel Same (symbol? s ts) (symbol? s ts') := by
  cases h with
  | nil => exact .none
  | text => exact .none
  | @cons t r r' h =>
      cases t with
      | symbol t =>
          rw [symbol?, symbol?]
          split
          · exact .some h
          · exact .none
      | _ => exact .none

lemma same_word? (w : String) (h : Same ts ts') : Option.Rel Same (word? w ts) (word? w ts') := by
  cases h with
  | nil => exact .none
  | text => exact .none
  | @cons t r r' h =>
      cases t with
      | word t =>
          rw [word?, word?]
          split
          · exact .some h
          · exact .none
      | _ => exact .none

lemma isSome_symbol? (s : String) (h : Same ts ts') :
    (symbol? s ts).isSome = (symbol? s ts').isSome := by
  rcases rel_cases (same_symbol? s h) with ⟨hx, hy⟩ | ⟨r, r', hx, hy, -⟩
  · rw [hx, hy]
  · rw [hx, hy]
    rfl

lemma same_name? (h : Same ts ts') : Option.Rel SameResult (name? ts) (name? ts') := by
  cases h with
  | nil => exact .none
  | text => exact .none
  | @cons t r r' h =>
      cases t with
      | word w =>
          rw [name?, name?]
          split
          · exact .none
          · exact .some ⟨rfl, h⟩
      | _ => exact .none

lemma same_operator? (ops : List (String × BinaryOp)) (h : Same ts ts') :
    Option.Rel SameResult (operator? ops ts) (operator? ops ts') := by
  cases h with
  | nil => exact .none
  | text => exact .none
  | @cons t r r' h =>
      cases t with
      | symbol s =>
          rw [operator?, operator?]
          cases ops.lookup s with
          | none => exact .none
          | some op => exact .some ⟨rfl, h⟩
      | _ => exact .none

lemma same_relation? (h : Same ts ts') : Option.Rel SameResult (relation? ts) (relation? ts') := by
  cases h with
  | nil => exact .none
  | text => exact .none
  | @cons t r r' h =>
      cases t with
      | symbol s =>
          rw [relation?, relation?]
          cases List.lookup s _ with
          | none => exact .none
          | some op => exact .some ⟨rfl, h⟩
      | word w =>
          by_cases hnot : w = "not"
          · subst hnot
            rcases h.word_cases "in" with ⟨r, r', rfl, rfl, hr⟩ | ⟨hne, hne'⟩
            · exact .some ⟨rfl, hr⟩
            · have hnone : ∀ s, (∀ r, s = .word "in" :: r → False) →
                  relation? (.word "not" :: s) = none :=
                fun s hs =>
                  relation?.eq_6 _ (by simp) (fun r hr => hs r (List.cons.inj hr).2) (by simp)
                  (by simp) (by simp)
              rw [hnone r hne, hnone r' hne']
              exact .none
          by_cases hin : w = "in"
          · subst hin
            exact .some ⟨rfl, h⟩
          by_cases his : w = "is"
          · subst his
            rcases h.word_cases "not" with ⟨r, r', rfl, rfl, hr⟩ | ⟨hne, hne'⟩
            · exact .some ⟨rfl, hr⟩
            · rw [relation?.eq_5 r hne, relation?.eq_5 r' hne']
              exact .some ⟨rfl, h⟩
          have hnone : ∀ s, relation? (.word w :: s) = none := fun s => by
            rw [relation?.eq_6] <;> simp [hnot, hin, his]
          rw [hnone r, hnone r']
          exact .none
      | _ => exact .none

lemma same_sign? (h : Same ts ts') : Option.Rel SameResult (sign? ts) (sign? ts') := by
  rcases h.symbol_cases "+" with ⟨r, r', rfl, rfl, hr⟩ | ⟨hplus, hplus'⟩
  · exact .some ⟨rfl, hr⟩
  rcases h.symbol_cases "-" with ⟨r, r', rfl, rfl, hr⟩ | ⟨hminus, hminus'⟩
  · exact .some ⟨rfl, hr⟩
  rcases h.symbol_cases "~" with ⟨r, r', rfl, rfl, hr⟩ | ⟨htilde, htilde'⟩
  · exact .some ⟨rfl, hr⟩
  rw [sign?.eq_4 ts hplus hminus htilde, sign?.eq_4 ts' hplus' hminus' htilde']
  exact .none

lemma startsClause_eq (h : Same ts ts') : startsClause ts = startsClause ts' := by
  rcases h.word_cases "for" with ⟨r, r', rfl, rfl, hr⟩ | ⟨hfor, hfor'⟩
  · rfl
  rcases h.words_cases "async" "for" with ⟨r, r', rfl, rfl, hr⟩ | ⟨hasync, hasync'⟩
  · rfl
  rw [startsClause.eq_3 ts hfor hasync, startsClause.eq_3 ts' hfor' hasync']

lemma startsNamed_eq (h : Same ts ts') : startsNamed ts = startsNamed ts' := by
  rcases h.assigned_cases ":=" with ⟨w, r, r', rfl, rfl, hr⟩ | ⟨hne, hne'⟩
  · rfl
  · rw [startsNamed.eq_2 ts hne, startsNamed.eq_2 ts' hne']

lemma isStarred_eq {e e' : Syntax} (h : e.shape = e'.shape) : isStarred e = isStarred e' := by
  have hshape : ∀ e : Syntax, isStarred e.shape = isStarred e := by
    intro e
    cases e with
    | literal l => cases l <;> rfl
    | foreign construct text level => cases construct <;> rfl
    | _ => rfl
  rw [← hshape, h, hshape]

end Tokens

/-! ## Quotations -/

section Quotations

variable {ts ts' : List Token}

/-- Quotations that differ in texts alone. -/
inductive SameQuotation : Quotation → Quotation → Prop where
  | refl (q : Quotation) : SameQuotation q q
  | text (s s' : String) (marked : Bool) : SameQuotation (.text s marked) (.text s' marked)

lemma SameQuotation.isOctets_eq {q q' : Quotation} (h : SameQuotation q q') :
    q.isOctets = q'.isOctets := by
  cases h <;> rfl

lemma SameQuotation.hasFields_eq {q q' : Quotation} (h : SameQuotation q q') :
    q.hasFields = q'.hasFields := by
  cases h <;> rfl

lemma same_quotations (h : Same ts ts') :
    List.Forall₂ SameQuotation (quotations ts).1 (quotations ts').1 ∧
      Same (quotations ts).2 (quotations ts').2 := by
  induction h with
  | nil => exact ⟨.nil, .nil⟩
  | @text s s' marked r r' h ih => exact ⟨.cons (.text s s' marked) ih.1, ih.2⟩
  | @cons t r r' h ih =>
      cases t with
      | quotation q => exact ⟨.cons (.refl q) ih.1, ih.2⟩
      | _ => exact ⟨.nil, .cons _ h⟩

section Values

variable {qs qs' : List Quotation}

lemma all_isOctets_eq (h : List.Forall₂ SameQuotation qs qs') :
    qs.all Quotation.isOctets = qs'.all Quotation.isOctets := by
  induction h with
  | nil => rfl
  | cons hq _ ih => rw [List.all_cons, List.all_cons, hq.isOctets_eq, ih]

lemma any_isOctets_eq (h : List.Forall₂ SameQuotation qs qs') :
    qs.any Quotation.isOctets = qs'.any Quotation.isOctets := by
  induction h with
  | nil => rfl
  | cons hq _ ih => rw [List.any_cons, List.any_cons, hq.isOctets_eq, ih]

lemma any_hasFields_eq (h : List.Forall₂ SameQuotation qs qs') :
    qs.any Quotation.hasFields = qs'.any Quotation.hasFields := by
  induction h with
  | nil => rfl
  | cons hq _ ih => rw [List.any_cons, List.any_cons, hq.hasFields_eq, ih]

/-- Octets are no texts. -/
lemma eq_of_all_isOctets (h : List.Forall₂ SameQuotation qs qs')
    (hall : qs.all Quotation.isOctets) :
    qs = qs' := by
  induction h with
  | nil => rfl
  | cons hq _ ih =>
      rw [List.all_cons, Bool.and_eq_true] at hall
      cases hq with
      | refl q => rw [ih hall.2]
      | text s s' marked => cases hall.1

/-- A text between fields never fails. -/
lemma rel_joinedStretches (n : Nat) (h : List.Forall₂ SameQuotation qs qs') :
    Option.Rel (fun _ _ => True) (joinedStretches n qs) (joinedStretches n qs') := by
  induction n generalizing qs qs' with
  | zero =>
      rw [joinedStretches, joinedStretches]
      exact .none
  | succ n ih =>
      cases h with
      | nil =>
          rw [joinedStretches]
          exact .some trivial
      | @cons q q' qs qs' hq hqs =>
          have hmore : ∀ first first' : List Stretch, Option.Rel (fun _ _ => True)
              (do let more ← joinedStretches n qs; some (first ++ more))
              (do let more ← joinedStretches n qs'; some (first' ++ more)) :=
            fun first first' => rel_bind (ih hqs) fun _ _ _ => .some trivial
          cases hq with
          | text s s' marked =>
              rw [joinedStretches, joinedStretches]
              exact hmore _ _
          | refl q =>
              cases q with
              | text s marked =>
                  rw [joinedStretches, joinedStretches]
                  exact hmore _ _
              | octets bytes =>
                  rw [joinedStretches, joinedStretches]
                  exact .none
              | fields raw body =>
                  rw [joinedStretches, joinedStretches]
                  cases joinedFields n raw 0 body with
                  | none => exact .none
                  | some p =>
                      dsimp only [Option.bind_eq_bind, Option.bind_some]
                      split
                      · exact hmore _ _
                      · exact .none

/-- **Quotations behind each other have values that differ in texts alone.** -/
lemma rel_joined (n : Nat) (h : List.Forall₂ SameQuotation qs qs') :
    Option.Rel (fun e e' => e.shape = e'.shape) (joined n qs) (joined n qs') := by
  cases n with
  | zero =>
      rw [joined, joined]
      exact .none
  | succ n =>
      rw [joined.eq_def, joined.eq_def]
      dsimp only
      by_cases hall : qs.all Quotation.isOctets
      · obtain rfl := eq_of_all_isOctets h hall
        rw [if_pos hall]
        exact .some rfl
      have hall' : ¬ qs'.all Quotation.isOctets := all_isOctets_eq h ▸ hall
      rw [if_neg hall, if_neg hall', any_isOctets_eq h, any_hasFields_eq h]
      split
      · exact .none
      split
      · exact rel_bind (rel_joinedStretches n h) fun _ _ _ => .some (shape_foreign _ _ _ _)
      · refine .some ?_
        cases h with
        | nil => rfl
        | @cons q q' qs qs' hq hqs =>
            cases hq with
            | text s s' marked => rfl
            | refl => cases q <;> rfl

end Values

lemma rel_quotations (n : Nat) (h : Same ts ts') :
    Option.Rel SameTree
      (match quotations ts with
        | (qs, rest) => do
          let e ← joined n qs
          some (e, rest))
      (match quotations ts' with
        | (qs, rest) => do
          let e ← joined n qs
          some (e, rest)) :=
  rel_bind (rel_joined n (same_quotations h).1) fun _ _ he => .some ⟨he, (same_quotations h).2⟩

end Quotations

end Crosswalk.Formula
