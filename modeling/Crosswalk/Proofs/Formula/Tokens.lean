import Crosswalk.Proofs.Formula.Phrases

/-!
# What the tokens of a formula stand for

The literals of a formula and the labels that it reads are told from its tokens alone, and so is
what each of its words may be.

* `literalsOf` — **the literals that tokens stand for**; `exists_literalsOf` says that a text in
  them changes no literal but its own.
* `IsPlaced` — what a word of a formula may be, between other tokens.
* `Accounts` — literals, labels and words of tokens taken together, with lemmas for tokens behind
  each other.
* `Syntax.IsMadeOf` — what the term of a tree takes from the terms of its parts.
* `AccountFor`, `Phrase.accounts` — **the terms of a phrase hold its literals and read its
  labels.** -/

namespace Crosswalk.Formula

/-- The trees that a phrase is read as. -/
def Reading.trees : Reading → List Syntax
  | .tree e => [e]
  | .operands _ es | .comparisons _ es | .arguments es => es

/-! ## Literals -/

mutual

/-- The literals of a term, from left to right. -/
def Term.literals : Term → List Value
  | .literal v => [v]
  | .field _ => []
  | .unary _ t => t.literals
  | .binary _ l r => l.literals ++ r.literals
  | .junction _ ts => Term.allLiterals ts
  | .comparison t _ ts => t.literals ++ Term.allLiterals ts
  | .choice c y n => y.literals ++ c.literals ++ n.literals
  | .call _ args => Term.allLiterals args

/-- The literals of several terms. -/
def Term.allLiterals : List Term → List Value
  | [] => []
  | t :: ts => t.literals ++ Term.allLiterals ts

end

lemma Term.allLiterals_eq_flatMap (ts : List Term) :
    Term.allLiterals ts = ts.flatMap Term.literals := by
  induction ts with
  | nil => rfl
  | cons t ts ih => rw [Term.allLiterals, ih, List.flatMap_cons]

/-- Size checks have no literals of their own. -/
lemma Term.literals_guarded (t : Term) : t.guarded.literals = t.literals := by
  have hall : ∀ ts : List Term, (∀ t ∈ ts, t.guarded.literals = t.literals) →
      Term.allLiterals (Term.allGuarded ts) = Term.allLiterals ts := by
    intro ts hts
    rw [Term.allGuarded_eq_map, Term.allLiterals_eq_flatMap, Term.allLiterals_eq_flatMap,
      List.flatMap_map, List.flatMap_congr hts]
  induction t using Term.induction with
  | literal v => rfl
  | field label => rfl
  | unary op t ht => simpa [Term.guarded, Term.literals] using ht
  | binary op l r hl hr => simp [Term.guarded, Term.literals, hl, hr]
  | junction op ts hts => simp [Term.guarded, Term.literals, hall ts hts]
  | comparison t ops ts ht hts => simp [Term.guarded, Term.literals, ht, hall ts hts]
  | choice c y n hc hy hn => simp [Term.guarded, Term.literals, hc, hy, hn]
  | call f args hargs => simp [Term.guarded, Term.literals, hall args hargs]

/-- The value that a word or a numeral stands for. -/
def Token.value? : Token → Option Value
  | .word w =>
    if w = "True" then some (.bool true) else if w = "False" then some (.bool false)
    else if w = "None" then some .absent else none
  | .numeral l => l.value?
  | _ => none

/-- The characters of a quotation that is a text. -/
def Quotation.content : Quotation → String
  | .text s _ => s
  | _ => ""

def Token.isQuotation : Token → Bool
  | .quotation _ => true
  | _ => false

/-- A quotation begins here. -/
def startsQuotation (ts : List Token) : Bool := ts.head?.any Token.isQuotation

/-- A text joined to the first of several literals. -/
def joinFirst (s : String) : List Value → List Value
  | .text t :: vs => .text (s ++ t) :: vs
  | vs => .text s :: vs

/-- **The literals that tokens stand for.**  Quotations behind each other stand for one. -/
def literalsOf : List Token → List Value
  | [] => []
  | .quotation q :: ts =>
    if startsQuotation ts then joinFirst q.content (literalsOf ts)
    else .text q.content :: literalsOf ts
  | t :: ts => t.value?.toList ++ literalsOf ts

section Literals

variable {ts us : List Token} {bound : List (String × String)} {terms : List Term}

@[simp] lemma literalsOf_word (w : String) (ts : List Token) :
    literalsOf (.word w :: ts) = (Token.word w).value?.toList ++ literalsOf ts := rfl

@[simp] lemma literalsOf_symbol (s : String) (ts : List Token) :
    literalsOf (.symbol s :: ts) = literalsOf ts := rfl

/-- Where a quotation is not the first token, it does not tell whether one is. -/
lemma startsQuotation_append (q q' : Quotation) (ts us : List Token) :
    startsQuotation (ts ++ .quotation q :: us) = startsQuotation (ts ++ .quotation q' :: us) := by
  cases ts <;> rfl

lemma value?_of_notMem_reservedWords {w : String} (h : w ∉ reservedWords) :
    (Token.word w).value? = none := by
  have hne : ∀ v ∈ ["True", "False", "None"], w ≠ v := by
    rintro v hv rfl
    have hreserved : ∀ v ∈ ["True", "False", "None"], v ∈ reservedWords := by decide
    exact h (hreserved w hv)
  simp only [List.forall_mem_cons] at hne
  simp [Token.value?, hne]

/-- A literal in front of others that a text is joined to stays in front of them. -/
lemma joinFirst_append (s : String) {vs : List Value} (h : vs ≠ []) (ws : List Value) :
    joinFirst s (vs ++ ws) = joinFirst s vs ++ ws := by
  cases vs with
  | nil => exact absurd rfl h
  | cons v vs => cases v <;> rfl

/-- A quotation is a text, whatever follows. -/
lemma exists_text_of_startsQuotation (h : startsQuotation ts) :
    ∃ s vs, literalsOf ts = .text s :: vs := by
  fun_induction literalsOf ts with
  | case1 => cases h
  | case2 q ts hts ih =>
      obtain ⟨s, vs, hvs⟩ := ih hts
      exact ⟨q.content ++ s, vs, by rw [hvs]; rfl⟩
  | case3 q ts hts => exact ⟨q.content, _, rfl⟩
  | case4 t ts ht =>
      cases t with
      | quotation q => exact (ht q rfl).elim
      | _ => cases h

/-- Literals do not join over a token that is no quotation. -/
lemma literalsOf_append (ts : List Token) (h : startsQuotation us = false) :
    literalsOf (ts ++ us) = literalsOf ts ++ literalsOf us := by
  fun_induction literalsOf ts with
  | case1 => rfl
  | case2 q ts hts ih =>
      obtain ⟨s, vs, hvs⟩ := exists_text_of_startsQuotation hts
      have hstarts : startsQuotation (ts ++ us) = true := by
        cases ts with
        | nil => cases hts
        | cons t ts => exact hts
      rw [List.cons_append, literalsOf, if_pos hstarts, ih, joinFirst_append]
      rw [hvs]
      exact List.cons_ne_nil _ _
  | case3 q ts hts ih =>
      have hstarts : startsQuotation (ts ++ us) = false := by
        cases ts with
        | nil => exact h
        | cons t ts => exact Bool.eq_false_iff.2 hts
      rw [List.cons_append, literalsOf, hstarts, ih]
      rfl
  | case4 t ts ht ih =>
      rw [List.cons_append, literalsOf, ih, List.append_assoc]
      exact ht

/-- Texts behind each other are one literal. -/
lemma literalsOf_texts (s : String × Bool) (more : List (String × Bool)) :
    literalsOf ((s :: more).map textToken) = [.text (String.join ((s :: more).map Prod.fst))] := by
  induction more generalizing s with
  | nil => simp [textToken, literalsOf, startsQuotation, Quotation.content, String.join]
  | cons t more ih =>
      have hstarts : startsQuotation ((t :: more).map textToken) = true := rfl
      rw [List.map_cons, textToken, literalsOf, if_pos hstarts, ih]
      simp [joinFirst, Quotation.content, String.join_cons]

/-- **The literals around a text do not depend on it.** -/
lemma exists_literalsOf (ts us : List Token) : ∃ front x y back, ∀ s marked,
    literalsOf (ts ++ .quotation (.text s marked) :: us)
      = front ++ .text (x ++ s ++ y) :: back := by
  induction ts with
  | nil =>
      cases hus : startsQuotation us with
      | false =>
          refine ⟨[], "", "", literalsOf us, fun s marked => ?_⟩
          rw [List.nil_append, literalsOf, hus]
          simp [Quotation.content]
      | true =>
          obtain ⟨t, vs, hvs⟩ := exists_text_of_startsQuotation hus
          refine ⟨[], "", t, vs, fun s marked => ?_⟩
          rw [List.nil_append, literalsOf, if_pos hus, hvs]
          simp [Quotation.content, joinFirst]
  | cons t ts ih =>
      obtain ⟨front, x, y, back, h⟩ := ih
      cases t with
      | quotation q =>
          cases hts : startsQuotation (ts ++ .quotation (.text "" false) :: us) with
          | false =>
              refine ⟨.text q.content :: front, x, y, back, fun s marked => ?_⟩
              rw [startsQuotation_append _ (.text s marked)] at hts
              rw [List.cons_append, literalsOf, hts, h]
              rfl
          | true =>
              cases front with
              | nil =>
                  refine ⟨[], q.content ++ x, y, back, fun s marked => ?_⟩
                  rw [startsQuotation_append _ (.text s marked)] at hts
                  rw [List.cons_append, literalsOf, if_pos hts, h]
                  simp [joinFirst, String.append_assoc]
              | cons v front =>
                  refine ⟨joinFirst q.content (v :: front), x, y, back, fun s marked => ?_⟩
                  rw [startsQuotation_append _ (.text s marked)] at hts
                  rw [List.cons_append, literalsOf, if_pos hts, h,
                    joinFirst_append _ (List.cons_ne_nil _ _)]
      | word w => exact ⟨_ ++ front, x, y, back, fun s marked => by
          rw [List.cons_append, literalsOf_word, h, List.append_assoc]⟩
      | numeral l => exact ⟨l.value?.toList ++ front, x, y, back, fun s marked => by
          rw [List.append_assoc, ← h s marked]; rfl⟩
      | symbol s' => exact ⟨front, x, y, back, h⟩
      | lineEnd => exact ⟨front, x, y, back, h⟩

end Literals

/-! ## Words -/

/-- The words of formulas that no name may be. -/
def formulaWords : List String := ["and", "or", "not", "if", "else", "True", "False", "None"]

/-- **A call begins here**: an opening bracket follows, behind as many closing ones as were opened
in front. -/
def IsCalled (front back : List Token) : Prop :=
  ∃ k f b, front = f ++ List.replicate k (.symbol "(") ∧
    back = List.replicate k (.symbol ")") ++ .symbol "(" :: b

/-- **What a word of a formula may be**, between other tokens: one of its words, the name of a
function that is called here, or the name that stands for a label. -/
def IsPlaced (bound : List (String × String)) (front : List Token) (w : String)
    (back : List Token) : Prop :=
  w ∈ formulaWords ∨ ((Function.ofName? (normalForm w)).isSome ∧ IsCalled front back) ∨
    (bound.lookup (normalForm w)).isSome

/-- The label that a word stands for. -/
def Token.label? (bound : List (String × String)) : Token → Option String
  | .word w => bound.lookup (normalForm w)
  | _ => none

/-- No word of formulas and no function stands for a label. -/
def IsFree (bound : List (String × String)) : Prop :=
  (∀ w ∈ formulaWords, bound.lookup (normalForm w) = none) ∧
    ∀ id, (Function.ofName? id).isSome → bound.lookup id = none

/-- **What tokens stand for**: literals and labels, and every word may be where it is. -/
structure Accounts (bound : List (String × String)) (ts : List Token) (vs : List Value)
    (labels : List String) : Prop where
  literals : literalsOf ts = vs
  labels : labels.Perm (ts.filterMap (Token.label? bound))
  words : ∀ front w back, ts = front ++ .word w :: back → IsPlaced bound front w back

section Words

variable {bound : List (String × String)} {ts us front back : List Token} {vs vs' : List Value}
  {labels labels' : List String} {w : String}

lemma IsPlaced.append (xs ys : List Token) (h : IsPlaced bound front w back) :
    IsPlaced bound (xs ++ front) w (back ++ ys) := by
  rcases h with hw | ⟨hfunction, k, f, b, rfl, rfl⟩ | hlabel
  · exact Or.inl hw
  · exact Or.inr (Or.inl ⟨hfunction, k, xs ++ f, b ++ ys, by simp, by simp⟩)
  · exact Or.inr (Or.inr hlabel)

/-- Words and symbols between phrases stand for nothing. -/
def IsSeam (t : Token) : Prop :=
  (∃ s, t = .symbol s) ∨ ∃ w ∈ ["and", "or", "not", "if", "else"], t = .word w

namespace IsSeam

lemma symbol (s : String) : IsSeam (.symbol s) := Or.inl ⟨s, rfl⟩

lemma word (hw : w ∈ ["and", "or", "not", "if", "else"]) : IsSeam (.word w) :=
  Or.inr ⟨w, hw, rfl⟩

lemma startsQuotation_eq {t : Token} (h : IsSeam t) (us : List Token) :
    startsQuotation (t :: us) = false := by
  rcases h with ⟨s, rfl⟩ | ⟨w, hw, rfl⟩ <;> rfl

end IsSeam

lemma literalsOf_replicate (k : Nat) (s : String) (ts : List Token) :
    literalsOf (List.replicate k (.symbol s) ++ ts) = literalsOf ts := by
  induction k with
  | zero => rfl
  | succ k ih => exact ih

lemma filterMap_label?_replicate (k : Nat) (s : String) (ts : List Token) :
    (List.replicate k (Token.symbol s) ++ ts).filterMap (Token.label? bound)
      = ts.filterMap (Token.label? bound) := by
  induction k with
  | zero => rfl
  | succ k ih => exact ih

namespace Accounts

lemma nil : Accounts bound [] [] [] where
  literals := rfl
  labels := .refl _
  words := by
    intro front w back h
    cases front <;> cases h

lemma perm (h : Accounts bound ts vs labels) (hlabels : labels'.Perm labels) :
    Accounts bound ts vs labels' :=
  ⟨h.literals, hlabels.trans h.labels, h.words⟩

/-- Tokens behind each other, of which no two quotations meet. -/
lemma append (h : Accounts bound ts vs labels) (h' : Accounts bound us vs' labels')
    (hus : startsQuotation us = false) :
    Accounts bound (ts ++ us) (vs ++ vs') (labels ++ labels') where
  literals := by rw [literalsOf_append ts hus, h.literals, h'.literals]
  labels := by
    rw [List.filterMap_append]
    exact h.labels.append h'.labels
  words := by
    intro front w back heq
    rcases append_eq_append_cons heq with ⟨more, rfl, hmore⟩ | ⟨more, hmore, rfl⟩
    · simpa using (h'.words more w back hmore).append ts []
    · simpa using (h.words front w more hmore).append [] us

/-- One token that is no quotation. -/
lemma single {t : Token} (ht : t.isQuotation = false)
    (hword : ∀ w, t = .word w → IsPlaced bound [] w []) :
    Accounts bound [t] t.value?.toList (t.label? bound).toList where
  literals := by
    cases t with
    | quotation q => cases ht
    | _ => simp [literalsOf, Token.value?]
  labels := by cases h : t.label? bound <;> simp [h]
  words := by
    intro front w back heq
    cases front with
    | nil =>
        obtain ⟨htoken, rfl⟩ := List.cons.inj heq
        exact hword w htoken
    | cons x front => cases front <;> cases heq

/-- A word that is a literal. -/
lemma value {v : Value} (hbound : IsFree bound) (hw : w ∈ formulaWords)
    (hv : (Token.word w).value? = some v) : Accounts bound [.word w] [v] [] := by
  have hone :
      Accounts bound [.word w] (Token.word w).value?.toList (Token.label? bound (.word w)).toList :=
    .single rfl fun u hu => by
      cases hu
      exact Or.inl hw
  rwa [hv, Token.label?, hbound.1 w hw] at hone

/-- A word or a symbol between phrases. -/
lemma seam {t : Token} (hbound : IsFree bound) (ht : IsSeam t) (h : Accounts bound us vs labels) :
    Accounts bound (t :: us) vs labels where
  literals := by
    rcases ht with ⟨s, rfl⟩ | ⟨w, hw, rfl⟩
    · exact h.literals
    · have hvalue : (Token.word w).value? = none := by
        revert hw w
        decide
      rw [literalsOf_word, hvalue]
      exact h.literals
  labels := by
    have hlabel : t.label? bound = none := by
      rcases ht with ⟨s, rfl⟩ | ⟨w, hw, rfl⟩
      · rfl
      · exact hbound.1 w (List.mem_of_mem_take (i := 5) hw)
    rw [List.filterMap_cons_none hlabel]
    exact h.labels
  words := by
    intro front w back heq
    cases front with
    | nil =>
        obtain ⟨rfl, rfl⟩ := List.cons.inj heq
        rcases ht with ⟨s, hs⟩ | ⟨w, hw, hs⟩
        · cases hs
        · cases hs
          exact Or.inl (List.mem_of_mem_take (i := 5) hw)
    | cons x front =>
        obtain ⟨rfl, hus⟩ := List.cons.inj heq
        simpa using (h.words front w back hus).append [t] []

/-- The target of a call with its opening bracket. -/
lemma target (hbound : IsFree bound) (hw : w ∉ reservedWords)
    (hfunction : (Function.ofName? (normalForm w)).isSome) (k : Nat)
    (h : Accounts bound us vs labels) :
    Accounts bound (List.replicate k (.symbol "(") ++ .word w :: (List.replicate k (.symbol ")")
      ++ .symbol "(" :: us)) vs labels := by
  have hnoWord : ∀ (s v : String),
      Token.word v ∉ List.replicate k (.symbol s) := fun s v hmem => by
    cases List.eq_of_mem_replicate hmem
  refine ⟨?_, ?_, fun front v back heq => ?_⟩
  · rw [literalsOf_replicate, literalsOf_word, value?_of_notMem_reservedWords hw,
      literalsOf_replicate, literalsOf_symbol]
    exact h.literals
  · have hlabel : Token.label? bound (.word w) = none := hbound.2 _ hfunction
    rw [filterMap_label?_replicate, List.filterMap_cons_none hlabel, filterMap_label?_replicate]
    exact h.labels
  · rcases append_eq_append_cons heq with ⟨more, rfl, hmore⟩ | ⟨more, hmore, -⟩
    · cases more with
      | nil =>
          obtain ⟨hv, rfl⟩ := List.cons.inj hmore
          cases hv
          exact Or.inr (Or.inl ⟨hfunction, k, [], us, by simp, rfl⟩)
      | cons x more =>
          obtain ⟨rfl, hinner⟩ := List.cons.inj hmore
          rcases append_eq_append_cons hinner with ⟨more, rfl, hus⟩ | ⟨more', hbracket, -⟩
          · cases more with
            | nil => cases hus
            | cons x more =>
                obtain ⟨rfl, hrest⟩ := List.cons.inj hus
                have hplaced := (h.words more v back hrest).append
                  (List.replicate k (.symbol "(") ++ .word w :: (List.replicate k (.symbol ")")
                    ++ [.symbol "("])) []
                simpa using hplaced
          · exact absurd (hbracket ▸ by simp) (hnoWord ")" v)
    · exact absurd (hmore ▸ by simp) (hnoWord "(" v)

end Accounts

/-- What is read as a name is the name, between brackets. -/
lemma Phrase.eq_of_name {id : String} (h : Phrase ts (.tree (.name id))) :
    ∃ k w, w ∉ reservedWords ∧ normalForm w = id ∧
      ts = List.replicate k (.symbol "(") ++ .word w :: List.replicate k (.symbol ")") := by
  generalize hr : Reading.tree (.name id) = r at h
  induction h with
  | @name w hw =>
      cases hr
      exact ⟨0, w, hw, rfl, rfl⟩
  | bracket h ih =>
      obtain ⟨k, w, hw, hid, rfl⟩ := ih hr
      refine ⟨k + 1, w, hw, hid, ?_⟩
      rw [List.replicate_succ, List.replicate_succ']
      simp
  | _ => cases hr

/-! ## Terms -/

/-- The terms of one tree. -/
lemma terms?_singleton {e : Syntax} {terms : List Term} :
    Syntax.terms? bound [e] = some terms ↔ ∃ t, e.term? bound = some t ∧ terms = [t] := by
  rw [Syntax.terms?]
  cases e.term? bound <;> simp [Syntax.terms?, eq_comm]

/-- **A tree is made of others**: its term holds their literals, and it reads their fields in some
order. -/
def Syntax.IsMadeOf (bound : List (String × String)) (e : Syntax) (parts : List Syntax) : Prop :=
  ∀ ⦃t⦄, e.term? bound = some t → ∃ terms, Syntax.terms? bound parts = some terms ∧
    t.literals = Term.allLiterals terms ∧ t.fields.Perm (Term.allFields terms)

section IsMadeOf

variable {e l r c y n : Syntax} {es : List Syntax}

lemma Syntax.isMadeOf_unary {op : UnaryOp} : (Syntax.unary op e).IsMadeOf bound [e] := by
  intro t ht
  obtain ⟨_, operand, -, hoperand, rfl⟩ := Syntax.term?_unary.1 ht
  exact ⟨[operand], terms?_singleton.2 ⟨operand, hoperand, rfl⟩,
    by simp [Term.literals, Term.allLiterals], by simp [Term.fields, Term.allFields]⟩

lemma Syntax.isMadeOf_binary {op : BinaryOp} : (Syntax.binary op l r).IsMadeOf bound [l, r] := by
  intro t ht
  obtain ⟨_, left, right, -, hleft, hright, rfl⟩ := Syntax.term?_binary.1 ht
  exact ⟨[left, right],
    Syntax.terms?_cons.2 ⟨left, [right], hleft,
      terms?_singleton.2 ⟨right, hright, rfl⟩, rfl⟩,
    by simp [Term.literals, Term.allLiterals], by simp [Term.fields, Term.allFields]⟩

/-- The condition is written behind the first of the two values, and read before it. -/
lemma Syntax.isMadeOf_choice : (Syntax.choice c y n).IsMadeOf bound [y, c, n] := by
  intro t ht
  obtain ⟨test, yes, no, htest, hyes, hno, rfl⟩ := Syntax.term?_choice.1 ht
  refine ⟨[yes, test, no], ?_, by simp [Term.literals, Term.allLiterals], ?_⟩
  · exact Syntax.terms?_cons.2 ⟨yes, [test, no], hyes, Syntax.terms?_cons.2
      ⟨test, [no], htest, terms?_singleton.2 ⟨no, hno, rfl⟩, rfl⟩, rfl⟩
  · simpa [Term.fields, Term.allFields] using List.perm_append_comm.append_right no.fields

lemma Syntax.isMadeOf_junction {op : Junction} : (Syntax.junction op es).IsMadeOf bound es := by
  intro t ht
  obtain ⟨operands, hoperands, rfl⟩ := Syntax.term?_junction.1 ht
  exact ⟨operands, hoperands, rfl, .refl _⟩

lemma Syntax.isMadeOf_comparison {ops : List Relation} :
    (Syntax.comparison e ops es).IsMadeOf bound (e :: es) := by
  intro t ht
  obtain ⟨first, _, rest, hfirst, -, hrest, rfl⟩ := Syntax.term?_comparison.1 ht
  exact ⟨first :: rest, Syntax.terms?_cons.2 ⟨first, rest, hfirst, hrest, rfl⟩, rfl,
    .refl _⟩

lemma Syntax.isMadeOf_call {target : Syntax} {keywords : List Layout} :
    (Syntax.call target es keywords).IsMadeOf bound es := by
  intro t ht
  obtain ⟨_, args, -, -, hargs, rfl⟩ := Syntax.term?_call.1 ht
  exact ⟨args, hargs, rfl, .refl _⟩

end IsMadeOf

/-- **Tokens account for trees** if they stand for what the terms of the trees hold and read. -/
def AccountFor (bound : List (String × String)) (ts : List Token) (es : List Syntax) : Prop :=
  ∀ ⦃terms⦄, Syntax.terms? bound es = some terms →
    Accounts bound ts (Term.allLiterals terms) (Term.allFields terms)

namespace AccountFor

variable {e : Syntax} {es : List Syntax} {seam : Token}

lemma nil : AccountFor bound [] [] := by
  intro terms hterms
  cases hterms
  exact .nil

/-- A tree that is made of others. -/
lemma tree (h : AccountFor bound ts es) (he : e.IsMadeOf bound es) : AccountFor bound ts [e] := by
  intro terms hterms
  obtain ⟨t, ht, rfl⟩ := terms?_singleton.1 hterms
  obtain ⟨parts, hparts, hliterals, hfields⟩ := he ht
  have hall := (h hparts).perm hfields
  rw [← hliterals] at hall
  simpa [Term.allLiterals, Term.allFields] using hall

/-- A tree in front of others. -/
lemma cons (h : AccountFor bound ts [e]) (h' : AccountFor bound us es)
    (hus : startsQuotation us = false) : AccountFor bound (ts ++ us) (e :: es) := by
  intro terms hterms
  obtain ⟨t, rest, ht, hrest, rfl⟩ := Syntax.terms?_cons.1 hterms
  have hall := (h (terms?_singleton.2 ⟨t, ht, rfl⟩)).append (h' hrest) hus
  simpa [Term.allLiterals, Term.allFields] using hall

/-- A word or a symbol between phrases. -/
lemma behind (hbound : IsFree bound) (hseam : IsSeam seam) (h : AccountFor bound us es) :
    AccountFor bound (seam :: us) es :=
  fun _ hterms => (h hterms).seam hbound hseam

/-- Trees with a word or a symbol between them. -/
lemma join (hbound : IsFree bound) (hseam : IsSeam seam) (h : AccountFor bound ts [e])
    (h' : AccountFor bound us es) : AccountFor bound (ts ++ seam :: us) (e :: es) :=
  h.cons (h'.behind hbound hseam) (hseam.startsQuotation_eq us)

lemma name (hw : w ∉ reservedWords) : AccountFor bound [.word w] [.name (normalForm w)] := by
  intro terms hterms
  obtain ⟨t, ht, rfl⟩ := terms?_singleton.1 hterms
  obtain ⟨label, hlabel, rfl⟩ := Syntax.term?_name.1 ht
  have hone :
      Accounts bound [.word w] (Token.word w).value?.toList (Token.label? bound (.word w)).toList :=
    .single rfl fun v hv => by
      cases hv
      exact Or.inr (Or.inr (Option.isSome_iff_exists.2 ⟨label, hlabel⟩))
  rwa [value?_of_notMem_reservedWords hw, Token.label?, hlabel] at hone

lemma numeral (l : Literal) : AccountFor bound [.numeral l] [.literal l] := by
  intro terms hterms
  obtain ⟨t, ht, rfl⟩ := terms?_singleton.1 hterms
  obtain ⟨v, hv, rfl⟩ := Syntax.term?_literal.1 ht
  have hone : Accounts bound [.numeral l] l.value?.toList [] := .single rfl (by simp)
  rwa [hv] at hone

/-- Texts behind each other. -/
lemma texts (s : String × Bool) (more : List (String × Bool)) :
    AccountFor bound ((s :: more).map textToken)
      [.literal (.text (String.join ((s :: more).map Prod.fst)) s.2)] := by
  intro terms hterms
  cases hterms
  refine ⟨literalsOf_texts s more, ?_, fun front w back heq => ?_⟩
  · have hlabels : ((s :: more).map textToken).filterMap (Token.label? bound) = [] := by
      rw [List.filterMap_map]
      exact List.filterMap_eq_nil_iff.2 fun _ _ => rfl
    rw [hlabels]
    exact .refl _
  · have hmem : Token.word w ∈ (s :: more).map textToken := heq ▸ by simp
    obtain ⟨_, -, h⟩ := List.mem_map.1 hmem
    cases h

/-- A call of a function. -/
lemma call (hbound : IsFree bound) {target : List Token} {id : String}
    (htarget : Phrase target (.tree (.name id))) (h : AccountFor bound us es) :
    AccountFor bound (target ++ .symbol "(" :: us) [.call (.name id) es []] := by
  intro terms hterms
  obtain ⟨t, ht, rfl⟩ := terms?_singleton.1 hterms
  obtain ⟨f, -, hf, -, -, -⟩ := Syntax.term?_call.1 ht
  obtain ⟨k, w, hw, hid, rfl⟩ := htarget.eq_of_name
  obtain ⟨g, hg, -⟩ := Option.map_eq_some_iff.1 hf
  have hfunction : (Function.ofName? (normalForm w)).isSome := by rw [hid, hg]; rfl
  have hargs : AccountFor bound (List.replicate k (.symbol "(") ++ .word w ::
      (List.replicate k (.symbol ")") ++ .symbol "(" :: us)) es :=
    fun _ hterms => (h hterms).target hbound hw hfunction k
  simpa using hargs.tree Syntax.isMadeOf_call hterms

end AccountFor

/-- What stands behind a phrase, of one reading, begins with no quotation. -/
lemma Phrase.startsQuotation_eq {r : Reading} (h : Phrase ts r) (hr : ∀ e, r ≠ .tree e)
    (hargs : ∀ es, r ≠ .arguments es) : startsQuotation ts = false := by
  cases h <;> first | rfl | exact absurd rfl (hr _) | exact absurd rfl (hargs _)

/-- **What the tokens of a formula stand for** is what its terms read and hold. -/
theorem Phrase.accounts (hbound : IsFree bound) {r : Reading} (h : Phrase ts r) :
    AccountFor bound ts r.trees := by
  have hseam : ∀ s, IsSeam (.symbol s) := IsSeam.symbol
  induction h with
  | yes | no | absent =>
      intro terms hterms
      cases hterms
      exact .value hbound (by decide) rfl
  | name hw => exact .name hw
  | numeral l => exact .numeral l
  | texts s more => exact .texts s more
  | bracket h ih => exact (ih.join hbound (hseam ")") .nil).behind hbound (hseam "(")
  | sign hop h ih => exact (ih.behind hbound (hseam _)).tree Syntax.isMadeOf_unary
  | not h ih => exact (ih.behind hbound (.word (by decide))).tree Syntax.isMadeOf_unary
  | @binary op ls rs l r hl hr ihl ihr =>
      exact (ihl.join hbound (hseam op.render) ihr).tree Syntax.isMadeOf_binary
  | choice hy hc hn ihy ihc ihn =>
      have helse : IsSeam (.word "else") := .word (by decide)
      exact (ihy.join hbound (.word (by decide)) (ihc.join hbound helse ihn)).tree
        Syntax.isMadeOf_choice
  | junction h more ih ihmore =>
      exact (ih.cons ihmore (more.startsQuotation_eq (by simp) (by simp))).tree
        Syntax.isMadeOf_junction
  | noOperands | noComparisons => exact .nil
  | @operand op ts us e es h more ih ihmore =>
      exact (ih.cons ihmore (more.startsQuotation_eq (by simp) (by simp))).behind hbound
        (.word (by cases op <;> decide))
  | comparison h more ih ihmore =>
      exact (ih.cons ihmore (more.startsQuotation_eq (by simp) (by simp))).tree
        Syntax.isMadeOf_comparison
  | @compared op ts us e ops es h more ih ihmore =>
      exact (ih.cons ihmore (more.startsQuotation_eq (by simp) (by simp))).behind hbound
        (hseam op.render)
  | call h more ih ihmore => exact .call hbound h ihmore
  | noArguments => exact .behind hbound (hseam _) .nil
  | lastArgument h ih => exact ih.join hbound (hseam ")") .nil
  | argument h more ih ihmore => exact ih.join hbound (hseam ",") ihmore

lemma startsQuotation_of_onlyLineEnds (h : onlyLineEnds ts) : startsQuotation ts = false := by
  rcases ts with _ | ⟨t, ts⟩
  · rfl
  · cases t <;> first | rfl | cases h

/-- Line ends stand for nothing. -/
lemma accounts_of_onlyLineEnds (h : onlyLineEnds ts) : Accounts bound ts [] [] := by
  induction ts with
  | nil => exact .nil
  | cons t ts ih =>
      obtain ⟨ht, hts⟩ : _ ∧ onlyLineEnds ts := by simpa [onlyLineEnds] using h
      cases t with
      | lineEnd =>
          have hone : Accounts bound [.lineEnd] [] [] := .single rfl (by simp)
          exact hone.append (ih hts) (startsQuotation_of_onlyLineEnds hts)
      | _ => cases ht

/-- **What the tokens of a whole formula stand for.** -/
theorem Syntax.accounts_of_ofTokens? (hbound : IsFree bound) {e : Syntax} {t : Term}
    (h : Syntax.ofTokens? ts = some e) (ht : e.term? bound = some t) :
    Accounts bound ts t.literals t.fields := by
  have he : e.IsFormula := ⟨bound, (Syntax.isSome_term? e).1 (ht ▸ rfl)⟩
  obtain ⟨used, rest, rfl, hused, hrest⟩ := Syntax.ofTokens?_eq_some h he
  have hall := (hused.accounts hbound (terms?_singleton.2 ⟨t, ht, rfl⟩)).append
    (accounts_of_onlyLineEnds hrest) (startsQuotation_of_onlyLineEnds hrest)
  simpa [Term.allLiterals, Term.allFields] using hall

end Words

end Crosswalk.Formula
