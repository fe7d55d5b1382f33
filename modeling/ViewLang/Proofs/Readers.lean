import ViewLang.Proofs.Grammar

/-!
# What readers read

A reader takes tokens from the front of a list. `Reader.Reads` describes it by the token lists that
it takes and the answers that it gives for them, whatever tokens follow. Readers are described one
by one, and those in sequence are put together with `Reads.bind`.

The main results are `itemForm_of_item` and `item_of_itemForm`: the tokens that are read in one go
are exactly a statement without a block, or a header with the brace behind it.
-/

namespace ViewLang

open Token (Word)
open Token.Word (keyword identifier symbol operator)

namespace Node

namespace Reader

variable {α β : Type}

/-- The contents of a string token are those that the grammar asks for. -/
theorem stringValue_eq_iff {t : Token} {content : String} :
    stringValue t = content ↔ Unquoted t.text content := by
  by_cases h : ∃ body, t.text.toList = '"' :: (body ++ ['"'])
  · obtain ⟨body, hbody⟩ := h
    have hvalue : stringValue t = String.ofList body := by
      rw [stringValue, hbody]
      simp
    have hcontents : Unquoted t.text content ↔ content.toList = body := by
      rw [Unquoted, hbody]
      simp [eq_comm]
    rw [hvalue, hcontents, ← String.toList_inj, String.toList_ofList, eq_comm]
  · have hvalue : stringValue t = t.text := by
      rw [stringValue]
      split
      · next cs hcs =>
        rw [if_neg]
        intro hlast
        obtain ⟨body, rfl⟩ := List.getLast?_eq_some_iff.mp hlast
        exact h ⟨body, hcs⟩
      · rfl
    have hnone : ∀ cs, t.text.toList ≠ '"' :: (cs ++ ['"']) := fun cs hcs => h ⟨cs, hcs⟩
    rw [hvalue, Unquoted, eq_comm]
    simp [hnone]

/-! ### What readers read -/

/-- The reader reads exactly the token lists of the form `form`, each with the answers of the form,
whatever follows them. -/
def Reads (r : Reader α) (form : List Token → α → Prop) : Prop :=
  ∀ ts a rest, r ts = .ok (a, rest) ↔ ∃ used, ts = used ++ rest ∧ form used a

namespace Reads

variable {r : Reader α} {form : List Token → α → Prop}

theorem congr {form' : List Token → α → Prop} (h : r.Reads form)
    (heq : ∀ used a, form used a ↔ form' used a) : r.Reads form' := by
  intro ts a rest
  simp only [h ts a rest, heq]

theorem pure (a : α) : Reads (pure a) fun used b => used = [] ∧ b = a := by
  intro ts b rest
  constructor
  · intro h
    cases h
    exact ⟨[], rfl, rfl, rfl⟩
  · rintro ⟨_, rfl, rfl, rfl⟩
    rfl

theorem bind {f : α → Reader β} {form' : α → List Token → β → Prop} (hr : r.Reads form)
    (hf : ∀ a, (f a).Reads (form' a)) :
    Reads (r >>= f) fun used b =>
      ∃ a first second, used = first ++ second ∧ form first a ∧ form' a second b := by
  intro ts b rest
  have hbind : (r >>= f) ts = (r ts).bind fun p => f p.1 p.2 := rfl
  rw [hbind]
  constructor
  · intro h
    cases hts : r ts with
    | error e =>
      rw [hts] at h
      cases h
    | ok p =>
      obtain ⟨a, middle⟩ := p
      rw [hts] at h
      obtain ⟨first, rfl, hfirst⟩ := (hr _ _ _).mp hts
      obtain ⟨second, rfl, hsecond⟩ := (hf a _ _ _).mp h
      exact ⟨first ++ second, by simp, a, first, second, rfl, hfirst, hsecond⟩
  · rintro ⟨_, rfl, a, first, second, rfl, hfirst, hsecond⟩
    have h : r (first ++ second ++ rest) = .ok (a, second ++ rest) :=
      (hr _ _ _).mpr ⟨first, by simp, hfirst⟩
    rw [h]
    exact (hf a _ _ _).mpr ⟨second, rfl, hsecond⟩

theorem token (expected : Expected) (p : Token → Bool) :
    Reads (token expected p) fun used t => used = [t] ∧ p t = true := by
  intro ts t rest
  cases ts with
  | nil =>
    constructor
    · intro h
      cases h
    · rintro ⟨_, h, rfl, -⟩
      cases h
  | cons u ts =>
    simp only [Reader.token]
    constructor
    · intro h
      split at h
      · next hp =>
        cases h
        exact ⟨[_], rfl, rfl, hp⟩
      · cases h
    · rintro ⟨_, h, rfl, hp⟩
      obtain ⟨rfl, rfl⟩ := List.cons.inj h
      rw [if_pos hp]

theorem of_word (kind : Token.Kind) (text : String) :
    Reads (word kind text) fun used t => used = [t] ∧ t.word = ⟨kind, text⟩ :=
  (token _ _).congr fun _ _ => by rw [Token.word_eq_iff]

/-- The first token is read alone, and only its word matters for what is read after it. -/
theorem token_bind {expected : Expected} {p : Token → Bool} {f : Token → Reader β}
    (P : Word → Prop) (form : Word → List Token → β → Prop) (hp : ∀ t, p t = true ↔ P t.word)
    (hf : ∀ t, (f t).Reads (form t.word)) :
    Reads (Reader.token expected p >>= f) fun used b =>
      ∃ t rest, used = t :: rest ∧ P t.word ∧ form t.word rest b := by
  refine ((token expected p).bind hf).congr fun used b => ?_
  constructor
  · rintro ⟨t, _, rest, rfl, ⟨rfl, ht⟩, h⟩
    exact ⟨t, rest, rfl, (hp t).mp ht, h⟩
  · rintro ⟨t, rest, rfl, ht, h⟩
    exact ⟨t, [t], rest, rfl, ⟨rfl, (hp t).mpr ht⟩, h⟩

theorem word_bind {kind : Token.Kind} {text : String} {f : Token → Reader β}
    {form : List Token → β → Prop} (hf : ∀ t, (f t).Reads form) :
    Reads (word kind text >>= f) fun used b =>
      ∃ t rest, used = t :: rest ∧ t.word = ⟨kind, text⟩ ∧ form rest b :=
  token_bind (· = ⟨kind, text⟩) (fun _ => form) (fun _ => Token.word_eq_iff.symm) hf

theorem ofKind_bind {kind : Token.Kind} {f : Token → Reader β}
    (form : Word → List Token → β → Prop) (hf : ∀ t, (f t).Reads (form t.word)) :
    Reads (ofKind kind >>= f) fun used b =>
      ∃ t rest, used = t :: rest ∧ t.word.kind = kind ∧ form t.word rest b :=
  token_bind (·.kind = kind) form (fun _ => beq_iff_eq) hf

theorem name : Reads name fun used s => used.map Token.word = [identifier s] := by
  refine (ofKind_bind (fun w used s => used = [] ∧ s = w.text) fun t => pure _).congr
    fun used s => ?_
  constructor
  · rintro ⟨t, _, rfl, hkind, rfl, rfl⟩
    rw [List.map_singleton, identifier, ← hkind]
  · intro h
    obtain ⟨t, rfl, ht⟩ := List.map_eq_singleton_iff.mp h
    exact ⟨t, [], rfl, congrArg Word.kind ht, rfl, (congrArg Word.text ht).symm⟩

theorem noParameters :
    Reads noParameters fun used _ => used.map Token.word = [symbol "(", symbol ")"] := by
  refine (word_bind fun t => word_bind fun u => pure ()).congr fun used _ => ?_
  simp [List.map_eq_cons_iff, symbol]

theorem argument : Reads argument fun used content =>
    ∃ text, used.map Token.word = [symbol "(", ⟨.string, text⟩, symbol ")"] ∧
      Unquoted text content := by
  refine (word_bind fun t => ofKind_bind (fun w used content =>
    ∃ u rest, used = u :: rest ∧ u.word = symbol ")" ∧ rest = [] ∧ Unquoted w.text content)
    fun t => ?_).congr fun used content => ?_
  · refine (word_bind fun u => pure _).congr fun used content => ?_
    simp only [symbol, ← stringValue_eq_iff, Token.word, eq_comm]
  · constructor
    · rintro ⟨t, _, rfl, ht, u, _, rfl, hu, v, _, rfl, hv, rfl, hcontent⟩
      refine ⟨u.word.text, ?_, hcontent⟩
      simp only [List.map_cons, List.map_nil, ht, hv, symbol, ← hu]
    · rintro ⟨text, h, hcontent⟩
      simp only [List.map_eq_cons_iff, List.map_eq_nil_iff] at h
      obtain ⟨t, _, rfl, ht, u, _, rfl, hu, v, _, rfl, hv, rfl⟩ := h
      refine ⟨t, _, rfl, ht, u, _, rfl, by rw [hu], v, _, rfl, hv, rfl, ?_⟩
      rw [hu]
      exact hcontent

theorem opening (header : Header) : Reads (opening header) fun used item =>
    ∃ t, used = [t] ∧ t.word = symbol "\x7b" ∧ item = .opening header t.span := by
  refine ((of_word .symbol "\x7b").bind fun t => pure _).congr fun used item => ?_
  constructor
  · rintro ⟨t, _, _, rfl, ⟨rfl, ht⟩, rfl, rfl⟩
    exact ⟨t, rfl, ht, rfl⟩
  · rintro ⟨t, rfl, ht, rfl⟩
    exact ⟨t, [t], [], rfl, ⟨rfl, ht⟩, rfl, rfl⟩

/-- A literal is a single token. -/
theorem literal_cons_eq_ok_iff {t : Token} {ts rest : List Token} {value : Literal} :
    Reader.literal (t :: ts) = .ok (value, rest) ↔ ts = rest ∧ DerivesLiteral t.word value := by
  obtain ⟨kind, text, line, span⟩ := t
  constructor
  · intro h
    cases kind with
    | string =>
      cases h
      exact ⟨rfl, .string (stringValue_eq_iff.mp rfl)⟩
    | number =>
      simp only [Reader.literal] at h
      split at h
      · next n hn =>
        cases h
        exact ⟨rfl, .number hn⟩
      · cases h
    | keyword | identifier | symbol | operator | newline => cases h
  · rintro ⟨rfl, h⟩
    cases h with
    | string hcontent =>
      rw [← stringValue_eq_iff.mpr hcontent]
      rfl
    | number hn => simp only [Reader.literal, hn]

theorem literal : Reads literal fun used value =>
    ∃ word, used.map Token.word = [word] ∧ DerivesLiteral word value := by
  intro ts value rest
  cases ts with
  | nil =>
    constructor
    · intro h
      cases h
    · rintro ⟨used, h, word, hword, -⟩
      obtain ⟨rfl, -⟩ := List.append_eq_nil_iff.mp h.symm
      cases hword
  | cons t ts =>
    rw [literal_cons_eq_ok_iff]
    constructor
    · rintro ⟨rfl, h⟩
      exact ⟨[t], rfl, t.word, rfl, h⟩
    · rintro ⟨used, h, word, hword, hderives⟩
      obtain ⟨u, rfl, rfl⟩ := List.map_eq_singleton_iff.mp hword
      obtain ⟨rfl, rfl⟩ := List.cons.inj h
      exact ⟨rfl, hderives⟩

/-- The token after the name shows whether there is a list of parameters. -/
theorem optionalParameters_bind {f : Unit → Reader β} (ts : List Token) :
    (optionalParameters >>= f) ts =
      if ts.head?.any (·.is .symbol "(") then (Reader.noParameters >>= f) ts else f () ts := by
  change (StateT.bind (fun ts => _) f) ts = _
  change (((if ts.head?.any (·.is .symbol "(") then Reader.noParameters else Pure.pure ()) :
    Reader Unit) ts).bind (fun p => f p.1 p.2) = _
  split <;> rfl

theorem optionalParameters_opening (header : Header) :
    Reads (optionalParameters >>= fun _ => Reader.opening header) fun used item =>
      ∃ front t, used = front ++ [t] ∧
        (front = [] ∨ front.map Token.word = [symbol "(", symbol ")"]) ∧
          t.word = symbol "\x7b" ∧ item = .opening header t.span := by
  intro ts item rest
  have hbrace : ∀ t : Token, t.word = symbol "\x7b" → ¬t.is .symbol "(" = true := by
    intro t ht hparen
    rw [Token.word_eq_iff.mpr hparen] at ht
    simp [symbol] at ht
  rw [optionalParameters_bind]
  split
  · next hparen =>
    rw [(noParameters.bind fun _ => opening header) ts item rest]
    constructor
    · rintro ⟨_, rfl, _, front, _, rfl, hfront, t, rfl, ht, rfl⟩
      exact ⟨_, rfl, front, t, rfl, .inr hfront, ht, rfl⟩
    · rintro ⟨_, rfl, front, t, rfl, rfl | hfront, ht, rfl⟩
      · exact absurd hparen (by simpa using hbrace t ht)
      · exact ⟨_, rfl, (), front, [t], rfl, hfront, t, rfl, ht, rfl⟩
  · next hparen =>
    rw [opening header ts item rest]
    constructor
    · rintro ⟨_, rfl, t, rfl, ht, rfl⟩
      exact ⟨[t], rfl, [], t, rfl, .inl rfl, ht, rfl⟩
    · rintro ⟨_, rfl, front, t, rfl, rfl | hfront, ht, rfl⟩
      · exact ⟨[t], rfl, t, rfl, ht, rfl⟩
      · obtain ⟨u, front, rfl, hu, -⟩ := List.map_eq_cons_iff.mp hfront
        exact absurd (Token.word_eq_iff.mp hu) (by simpa using hparen)

end Reads

end Reader

/-! ### Items -/

/-- The tokens that make up an item. -/
def ItemForm (ts : List Token) : Item → Prop
  | .leaf node => LeafForm (ts.map Token.word) node
  | .opening header brace => ∃ front t, ts = front ++ [t] ∧
      HeaderForm (front.map Token.word) header ∧ t.word = symbol "\x7b" ∧ brace = t.span

namespace Reader

variable {first : Token}

namespace Reads

theorem item_view (h : first.word = keyword .view) :
    (item first).Reads fun used i =>
      ∃ t, used = [t] ∧ t.word = symbol "\x7b" ∧ i = .opening .view t.span := by
  rw [item, Token.keyword?_eq_some_iff_word.mpr h]
  exact opening .view

theorem item_assignment (h : first.word = keyword .letWord) :
    (item first).Reads fun used i =>
      ∃ name word value, used.map Token.word = [identifier name, operator "=", word] ∧
        DerivesLiteral word value ∧ i = .leaf (.assignment name value) := by
  rw [item, Token.keyword?_eq_some_iff_word.mpr h]
  refine (name.bind fun n => word_bind fun _ => literal.bind fun v =>
    pure (Item.leaf (.assignment n v))).congr fun used i => ?_
  constructor
  · rintro ⟨name, front, _, rfl, hname, t, _, rfl, ht, value, _, _, rfl, ⟨word, hword, hvalue⟩,
      rfl, rfl⟩
    refine ⟨name, word, value, ?_, hvalue, rfl⟩
    rw [List.append_nil, List.map_append, hname, List.map_cons, ht, hword]
    rfl
  · rintro ⟨name, word, value, hwords, hvalue, rfl⟩
    simp only [List.map_eq_cons_iff, List.map_eq_nil_iff] at hwords
    obtain ⟨t, _, rfl, ht, u, _, rfl, hu, v, _, rfl, hv, rfl⟩ := hwords
    exact ⟨name, [t], [u, v], rfl, congrArg (List.cons · []) ht, u, [v], rfl, hu, value, [v], [],
      rfl, ⟨word, congrArg (List.cons · []) hv, hvalue⟩, rfl, rfl⟩

theorem item_function (h : first.word = keyword .func) :
    (item first).Reads fun used i =>
      ∃ name front t, used = front ++ [t] ∧
        front.map Token.word = [identifier name, symbol "(", symbol ")"] ∧
          t.word = symbol "\x7b" ∧ i = .opening (.function name) t.span := by
  rw [item, Token.keyword?_eq_some_iff_word.mpr h]
  refine (name.bind fun n => noParameters.bind fun _ => opening (.function n)).congr
    fun used i => ?_
  constructor
  · rintro ⟨name, front, _, rfl, hname, _, parens, _, rfl, hparens, t, rfl, ht, rfl⟩
    refine ⟨name, front ++ parens, t, by simp, ?_, ht, rfl⟩
    rw [List.map_append, hname, hparens, List.singleton_append]
  · rintro ⟨name, front, t, rfl, hwords, ht, rfl⟩
    obtain ⟨u, parens, rfl, hu, hparens⟩ := List.map_eq_cons_iff.mp hwords
    exact ⟨name, [u], parens ++ [t], rfl, congrArg (List.cons · []) hu, (), parens, [t], rfl,
      hparens, t, rfl, ht, rfl⟩

theorem item_component (h : first.word = keyword .component) :
    (item first).Reads fun used i =>
      ∃ name front t, used = front ++ [t] ∧
        (front.map Token.word = [identifier name] ∨
          front.map Token.word = [identifier name, symbol "(", symbol ")"]) ∧
          t.word = symbol "\x7b" ∧ i = .opening (.component name) t.span := by
  rw [item, Token.keyword?_eq_some_iff_word.mpr h]
  refine (name.bind fun n => optionalParameters_opening (.component n)).congr fun used i => ?_
  constructor
  · rintro ⟨name, front, _, rfl, hname, parens, t, rfl, hparens, ht, rfl⟩
    refine ⟨name, front ++ parens, t, by simp, ?_, ht, rfl⟩
    rw [List.map_append, hname, List.singleton_append]
    exact hparens.imp (fun h => by rw [h, List.map_nil]) (fun h => by rw [h])
  · rintro ⟨name, front, t, rfl, hwords, ht, rfl⟩
    obtain ⟨u, parens, rfl, hu, hparens⟩ : ∃ u parens, front = u :: parens ∧
        u.word = identifier name ∧
          (parens = [] ∨ parens.map Token.word = [symbol "(", symbol ")"]) := by
      rcases hwords with hwords | hwords
      · obtain ⟨u, parens, rfl, hu, hparens⟩ := List.map_eq_cons_iff.mp hwords
        exact ⟨u, parens, rfl, hu, .inl (List.map_eq_nil_iff.mp hparens)⟩
      · obtain ⟨u, parens, rfl, hu, hparens⟩ := List.map_eq_cons_iff.mp hwords
        exact ⟨u, parens, rfl, hu, .inr hparens⟩
    exact ⟨name, [u], parens ++ [t], rfl, congrArg (List.cons · []) hu, parens, t, rfl, hparens, ht,
      rfl⟩

/-- Texts and buttons. -/
theorem argument_bind (f : String → Node) :
    Reads (Reader.argument >>= fun content => Pure.pure (Item.leaf (f content))) fun used i =>
      ∃ quoted content, used.map Token.word = [symbol "(", ⟨.string, quoted⟩, symbol ")"] ∧
        Unquoted quoted content ∧ i = .leaf (f content) := by
  refine (argument.bind fun _ => pure _).congr fun used i => ?_
  constructor
  · rintro ⟨content, _, _, rfl, ⟨quoted, hwords, hquoted⟩, rfl, rfl⟩
    exact ⟨quoted, content, by simpa using hwords, hquoted, rfl⟩
  · rintro ⟨quoted, content, hwords, hquoted, rfl⟩
    exact ⟨content, used, [], by simp, ⟨quoted, hwords, hquoted⟩, rfl, rfl⟩

theorem item_text (h : first.word = keyword .text) :
    (item first).Reads fun used i =>
      ∃ quoted content, used.map Token.word = [symbol "(", ⟨.string, quoted⟩, symbol ")"] ∧
        Unquoted quoted content ∧ i = .leaf (.text content) := by
  rw [item, Token.keyword?_eq_some_iff_word.mpr h]
  exact argument_bind .text

theorem item_button (h : first.word = keyword .button) :
    (item first).Reads fun used i =>
      ∃ quoted content, used.map Token.word = [symbol "(", ⟨.string, quoted⟩, symbol ")"] ∧
        Unquoted quoted content ∧ i = .leaf (.button content) := by
  rw [item, Token.keyword?_eq_some_iff_word.mpr h]
  exact argument_bind .button

theorem item_call {name : String} (h : first.word = identifier name) :
    (item first).Reads fun used i =>
      used.map Token.word = [symbol "(", symbol ")"] ∧ i = .leaf (.call name) := by
  have hkind : first.kind = .identifier := congrArg Word.kind h
  have htext : first.text = name := congrArg Word.text h
  have hkeyword : first.keyword? = none := by rw [Token.keyword?, hkind]
  rw [item, hkeyword]
  simp only [hkind, if_true]
  refine (noParameters.bind fun _ => pure (Item.leaf (.call first.text))).congr fun used i => ?_
  constructor
  · rintro ⟨_, _, _, rfl, hwords, rfl, rfl⟩
    exact ⟨by rwa [List.append_nil], by rw [htext]⟩
  · rintro ⟨hwords, rfl⟩
    exact ⟨(), used, [], by simp, hwords, rfl, by rw [htext]⟩

end Reads

/-- **Soundness for items**: what is read in one go has one of the forms. -/
theorem itemForm_of_item {ts rest : List Token} {i : Item}
    (h : item first ts = .ok (i, rest)) :
    ∃ used, ts = used ++ rest ∧ ItemForm (first :: used) i := by
  cases hfirst : first.keyword? with
  | none =>
    by_cases hkind : first.kind = .identifier
    · have hword : first.word = identifier first.text := by rw [Token.word, hkind, identifier]
      obtain ⟨used, rfl, hused, rfl⟩ := (Reads.item_call hword _ _ _).mp h
      refine ⟨used, rfl, ?_⟩
      simp only [ItemForm, LeafForm, List.map_cons, hword, hused]
    · simp only [item, hfirst, hkind, if_false] at h
      cases h
  | some k =>
    have hword := Token.keyword?_eq_some_iff_word.mp hfirst
    cases k with
    | view =>
      obtain ⟨used, rfl, t, rfl, ht, rfl⟩ := (Reads.item_view hword _ _ _).mp h
      exact ⟨_, rfl, [first], t, rfl, congrArg (List.cons · []) hword, ht, rfl⟩
    | letWord =>
      obtain ⟨used, rfl, name, word, value, hused, hvalue, rfl⟩ :=
        (Reads.item_assignment hword _ _ _).mp h
      refine ⟨used, rfl, word, hvalue, ?_⟩
      rw [List.map_cons, hword, hused]
    | func =>
      obtain ⟨used, rfl, name, front, t, rfl, hfront, ht, rfl⟩ :=
        (Reads.item_function hword _ _ _).mp h
      refine ⟨_, rfl, first :: front, t, rfl, ?_, ht, rfl⟩
      simp only [HeaderForm, List.map_cons, hword, hfront]
    | component =>
      obtain ⟨used, rfl, name, front, t, rfl, hfront, ht, rfl⟩ :=
        (Reads.item_component hword _ _ _).mp h
      refine ⟨_, rfl, first :: front, t, rfl, ?_, ht, rfl⟩
      simpa only [HeaderForm, List.map_cons, hword, List.cons.injEq, true_and] using hfront
    | text =>
      obtain ⟨used, rfl, quoted, content, hused, hquoted, rfl⟩ :=
        (Reads.item_text hword _ _ _).mp h
      refine ⟨used, rfl, quoted, hquoted, ?_⟩
      rw [List.map_cons, hword, hused]
    | button =>
      obtain ⟨used, rfl, quoted, content, hused, hquoted, rfl⟩ :=
        (Reads.item_button hword _ _ _).mp h
      refine ⟨used, rfl, quoted, hquoted, ?_⟩
      rw [List.map_cons, hword, hused]
    | returnWord | ifWord | elseWord | forWord | whileWord =>
      simp only [item, hfirst] at h
      cases h

/-- **Completeness for items**: what has one of the forms is read in one go. -/
theorem item_of_itemForm {used : List Token} (i : Item) (h : ItemForm (first :: used) i)
    (rest : List Token) : item first (used ++ rest) = .ok (i, rest) := by
  cases i with
  | leaf node =>
    cases node with
    | assignment name value =>
      obtain ⟨word, hvalue, hwords⟩ := h
      obtain ⟨hfirst, hused⟩ := List.cons.inj hwords
      exact (Reads.item_assignment hfirst _ _ _).mpr
        ⟨used, rfl, name, word, value, hused, hvalue, rfl⟩
    | text content =>
      obtain ⟨quoted, hquoted, hwords⟩ := h
      obtain ⟨hfirst, hused⟩ := List.cons.inj hwords
      exact (Reads.item_text hfirst _ _ _).mpr ⟨used, rfl, quoted, content, hused, hquoted, rfl⟩
    | button label =>
      obtain ⟨quoted, hquoted, hwords⟩ := h
      obtain ⟨hfirst, hused⟩ := List.cons.inj hwords
      exact (Reads.item_button hfirst _ _ _).mpr ⟨used, rfl, quoted, label, hused, hquoted, rfl⟩
    | call name =>
      obtain ⟨hfirst, hused⟩ := List.cons.inj h
      exact (Reads.item_call hfirst _ _ _).mpr ⟨used, rfl, hused, rfl⟩
    | view | function | component => exact h.elim
  | opening header brace =>
    obtain ⟨front, t, hused, hheader, ht, rfl⟩ := h
    -- A header has at least one word, so the first token is the first of the header.
    obtain ⟨front, rfl, rfl⟩ : ∃ tail, front = first :: tail ∧ used = tail ++ [t] := by
      cases front with
      | nil => cases header <;> simp [HeaderForm] at hheader
      | cons u front =>
        obtain ⟨rfl, rfl⟩ := List.cons.inj hused
        exact ⟨front, rfl, rfl⟩
    cases header with
    | view =>
      obtain ⟨hfirst, hnil⟩ := List.cons.inj hheader
      obtain rfl := List.map_eq_nil_iff.mp hnil
      exact (Reads.item_view hfirst _ _ _).mpr ⟨[t], rfl, t, rfl, ht, rfl⟩
    | function name =>
      obtain ⟨hfirst, hfront⟩ := List.cons.inj hheader
      exact (Reads.item_function hfirst _ _ _).mpr ⟨_, rfl, name, front, t, rfl, hfront, ht, rfl⟩
    | component name =>
      have hfirst : first.word = keyword .component := by
        rcases hheader with hheader | hheader <;> exact (List.cons.inj hheader).1
      have hfront := hheader.imp (fun h => (List.cons.inj h).2) (fun h => (List.cons.inj h).2)
      exact (Reads.item_component hfirst _ _ _).mpr ⟨_, rfl, name, front, t, rfl, hfront, ht, rfl⟩

/-- An item begins with a keyword or a name, so not with a closing brace. -/
theorem is_close_eq_false_of_item {i : Item} (h : item first ts = .ok (i, rest)) :
    first.is .symbol "\x7d" = false := by
  rw [Bool.eq_false_iff]
  intro hclose
  have hkind : first.kind = .symbol := (Token.is_eq_true_iff.mp hclose).1
  have hkeyword : first.keyword? = none := by rw [Token.keyword?, hkind]
  simp only [item, hkeyword, hkind] at h
  cases h

end Reader

end Node

end ViewLang
