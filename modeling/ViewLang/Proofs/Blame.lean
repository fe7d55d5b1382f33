import ViewLang.Proofs.Readers

/-!
# The token that is to blame

A reader that fails names the first token with which all hope is lost, and the end of the tokens
only where there is hope left.

* **Blame.** A reader has lost hope after some tokens if it fails whatever follows
  (`Reader.Hopeless`), and it has not if it can still be satisfied (`Reader.Completable`).
  `Reader.Blames` says of a token that it is the first one that does not fit.
* **Prompt readers.** A reader is prompt if it blames in this sense whenever it fails
  (`Reader.Prompt`). Readers in sequence are prompt if each of them is, since one that has succeeded
  would succeed on its tokens whatever came after them (`Prompt.bind`). A choice by the first token
  is prompt if the readers to choose from are (`Prompt.of_head`).

All readers of items are prompt (`prompt_item_or_throw`).
-/

namespace ViewLang

open Token (Word)
open Token.Word (symbol)

/-- A token that is the word. -/
def Token.ofWord (w : Word) : Token :=
  ⟨w.kind, w.text, 1, .empty 0⟩

namespace Node

namespace Reader

variable {α β : Type} {r : Reader α} {ts : List Token} {found : Option Token}

/-! ### Blame -/

/-- Some continuation of the tokens is read to its end. -/
def Completable (r : Reader α) (ts : List Token) : Prop :=
  ∃ more a, r (ts ++ more) = .ok (a, [])

/-- No continuation of the tokens can be read. -/
def Hopeless (r : Reader α) (ts : List Token) : Prop :=
  ∀ more p, r (ts ++ more) ≠ .ok p

/-- Up to the token `found` there is hope, and with it there is none; or the tokens have come to
their end, and there is hope left. -/
inductive Blames (r : Reader α) : List Token → Option Token → Prop where
  | misfit {used rest : List Token} {t : Token} : r.Completable used → r.Hopeless (used ++ [t]) →
      Blames r (used ++ t :: rest) (some t)
  | ending {ts : List Token} : r.Completable ts → Blames r ts none

/-- The blame of a reader falls on the same token where hope is a matter of that reader alone. -/
theorem Blames.transfer {r' : Reader β} (h : r.Blames ts found) (front : List Token)
    (hcompletable : ∀ us, r.Completable us → r'.Completable (front ++ us))
    (hhopeless : ∀ us, r.Hopeless us → r'.Hopeless (front ++ us)) :
    r'.Blames (front ++ ts) found := by
  cases h with
  | misfit hused ht =>
    rw [← List.append_assoc]
    refine .misfit (hcompletable _ hused) ?_
    rw [List.append_assoc]
    exact hhopeless _ ht
  | ending hts => exact .ending (hcompletable _ hts)

/-- What is read before makes no difference to the blame. -/
theorem Blames.prepend {r' : Reader α} (h : r.Blames ts found) (front : List Token)
    (heq : ∀ us, r' (front ++ us) = r us) : r'.Blames (front ++ ts) found := by
  refine h.transfer front (fun us hus => ?_) (fun us hus => ?_)
  · obtain ⟨more, a, ha⟩ := hus
    exact ⟨more, a, by rw [List.append_assoc, heq, ha]⟩
  · intro more p
    rw [List.append_assoc, heq]
    exact hus more p

/-! ### Prompt readers -/

/-- The reader can be satisfied, and where it fails, it blames the first token that does not fit. It
never points to a block. -/
structure Prompt (r : Reader α) : Prop where
  completable : r.Completable []
  blames : ∀ ts e, r ts = .error e → r.Blames ts e.found ∧ e.openedAt = none

/-- What a reader has read does not depend on what follows. -/
theorem Reads.exists_used {form : List Token → α → Prop} (h : r.Reads form) {a : α}
    {rest : List Token} (hr : r ts = .ok (a, rest)) :
    ∃ used, ts = used ++ rest ∧ ∀ more, r (used ++ more) = .ok (a, more) := by
  obtain ⟨used, hused, hform⟩ := (h ts a rest).mp hr
  exact ⟨used, hused, fun more => (h _ a more).mpr ⟨used, rfl, hform⟩⟩

namespace Prompt

theorem pure (a : α) : Prompt (Pure.pure a) :=
  ⟨⟨[], a, rfl⟩, fun ts e h => by cases h⟩

theorem bind {form : List Token → α → Prop} {f : α → Reader β} (hr : r.Prompt)
    (hreads : r.Reads form) (hf : ∀ a, (f a).Prompt) : Prompt (r >>= f) := by
  have hbind : ∀ ts, (r >>= f) ts = (r ts).bind fun p => f p.1 p.2 := fun _ => rfl
  -- Where the first reader can be satisfied, the second one can be satisfied after it.
  have hcompletable : ∀ us, r.Completable us → (r >>= f).Completable us := by
    rintro us ⟨more, a, ha⟩
    obtain ⟨used, hused, hmore⟩ := hreads.exists_used ha
    rw [List.append_nil] at hused
    obtain ⟨after, b, hb⟩ := (hf a).completable
    refine ⟨more ++ after, b, ?_⟩
    rw [← List.append_assoc, hused, hbind, hmore]
    exact hb
  refine ⟨hcompletable [] hr.completable, fun ts e h => ?_⟩
  rw [hbind] at h
  cases hts : r ts with
  | error e' =>
    rw [hts] at h
    obtain rfl : e' = e := Except.error.inj h
    obtain ⟨hblames, hopened⟩ := hr.blames ts e' hts
    have hhopeless : ∀ us, r.Hopeless us → (r >>= f).Hopeless us := by
      intro us hus more p hp
      rw [hbind] at hp
      cases hmore : r (us ++ more) with
      | error e =>
        rw [hmore] at hp
        cases hp
      | ok q => exact hus more q hmore
    exact ⟨hblames.transfer [] hcompletable hhopeless, hopened⟩
  | ok p =>
    obtain ⟨a, rest⟩ := p
    rw [hts] at h
    obtain ⟨hblames, hopened⟩ := (hf a).blames rest e h
    obtain ⟨used, rfl, hmore⟩ := hreads.exists_used hts
    refine ⟨hblames.prepend used fun us => ?_, hopened⟩
    rw [hbind, hmore]
    rfl

/-- A reader that leaves the choice between prompt readers to the first token. -/
theorem of_head (hnil : r.Completable [])
    (h : ∀ first : Option Token, ∃ r' : Reader α, r'.Prompt ∧
      ∀ us : List Token, us.head? = first → r us = r' us) : r.Prompt := by
  refine ⟨hnil, fun ts e he => ?_⟩
  obtain ⟨r', hr', heq⟩ := h ts.head?
  rw [heq ts rfl] at he
  obtain ⟨hblames, hopened⟩ := hr'.blames ts e he
  refine ⟨?_, hopened⟩
  -- As soon as there is a token, the choice has been made.
  have hcompletable : ∀ t us, some t = ts.head? → r'.Completable (t :: us) →
      r.Completable (t :: us) := by
    rintro t us hhead ⟨more, a, ha⟩
    exact ⟨more, a, (heq (t :: us ++ more) hhead).trans ha⟩
  cases hfound : e.found with
  | none =>
    rw [hfound] at hblames
    cases hblames with
    | ending hts =>
      cases ts with
      | nil => exact .ending hnil
      | cons t ts => exact .ending (hcompletable t ts rfl hts)
  | some t =>
    rw [hfound] at hblames
    cases hblames with
    | @misfit used rest _ hused ht =>
      have hhead : ∀ more, (used ++ [t] ++ more).head? = (used ++ t :: rest).head? := by
        cases used <;> simp
      refine .misfit ?_ fun more p hp => ht more p ?_
      · cases used with
        | nil => exact hnil
        | cons u used => exact hcompletable u used rfl hused
      · rw [← heq _ (hhead more), hp]

/-! ### Every reader is prompt -/

theorem token {expected : Expected} {p : Token → Bool} (t : Token) (ht : p t = true) :
    Prompt (token expected p) := by
  have hcompletable : Completable (Reader.token expected p) [] :=
    ⟨[t], t, by simp [Reader.token, ht]⟩
  refine ⟨hcompletable, fun ts e h => ?_⟩
  cases ts with
  | nil =>
    cases h
    exact ⟨.ending hcompletable, rfl⟩
  | cons u ts =>
    simp only [Reader.token] at h
    split at h
    · cases h
    · next hu =>
      cases h
      refine ⟨.misfit hcompletable fun more q hq => ?_, rfl⟩
      simp [Reader.token, hu] at hq

theorem word (kind : Token.Kind) (text : String) : Prompt (word kind text) :=
  token (.ofWord ⟨kind, text⟩) (by simp [Token.ofWord])

theorem ofKind (kind : Token.Kind) : Prompt (ofKind kind) :=
  token (.ofWord ⟨kind, ""⟩) (by simp [Token.ofWord])

theorem name : Prompt name :=
  (ofKind _).bind (Reads.token _ _) fun _ => pure _

theorem noParameters : Prompt noParameters :=
  (word _ _).bind (Reads.of_word _ _) fun _ => (word _ _).bind (Reads.of_word _ _) fun _ => pure _

theorem argument : Prompt argument :=
  (word _ _).bind (Reads.of_word _ _) fun _ => (ofKind _).bind (Reads.token _ _) fun _ =>
    (word _ _).bind (Reads.of_word _ _) fun _ => pure _

theorem opening (header : Header) : Prompt (opening header) :=
  (word _ _).bind (Reads.of_word _ _) fun _ => pure _

theorem optionalParameters_opening (header : Header) :
    Prompt (optionalParameters >>= fun _ => Reader.opening header) := by
  refine of_head ?_ fun first => ?_
  · have hbrace := (Reads.optionalParameters_opening header) [.ofWord (symbol "\x7b")]
      (.opening header (.empty 0)) []
    exact ⟨_, _, hbrace.mpr ⟨_, rfl, [], _, rfl, .inl rfl, rfl, rfl⟩⟩
  · by_cases hparen : first.any (·.is .symbol "(")
    · refine ⟨_, noParameters.bind Reads.noParameters fun _ => opening header, fun us hus => ?_⟩
      rw [Reads.optionalParameters_bind, hus, if_pos hparen]
    · refine ⟨_, opening header, fun us hus => ?_⟩
      rw [Reads.optionalParameters_bind, hus, if_neg hparen]

theorem literal : Prompt literal := by
  have hcompletable : Completable Reader.literal [] :=
    ⟨[.ofWord ⟨.string, ""⟩], .string "", rfl⟩
  refine ⟨hcompletable, fun ts e h => ?_⟩
  cases ts with
  | nil =>
    cases h
    exact ⟨.ending hcompletable, rfl⟩
  | cons t ts =>
    have hblamed : e.found = some t ∧ e.openedAt = none := by
      simp only [Reader.literal] at h
      split at h
      · cases h
      · split at h
        · cases h
        · cases h
          exact ⟨rfl, rfl⟩
      · cases h
        exact ⟨rfl, rfl⟩
    rw [hblamed.1]
    refine ⟨.misfit hcompletable fun more p hp => ?_, hblamed.2⟩
    -- Whether a token is a literal does not depend on the tokens after it.
    obtain ⟨-, hderives⟩ := Reads.literal_cons_eq_ok_iff.mp hp
    rw [Reads.literal_cons_eq_ok_iff.mpr ⟨rfl, hderives⟩] at h
    cases h

end Prompt

/-- The rest of an item is read promptly, unless no item begins with the first token. -/
theorem prompt_item_or_throw (first : Token) :
    (item first).Prompt ∨ item first = throw { expected := .statement, found := some first } := by
  unfold item
  split
  · exact .inl (.opening _)
  · exact .inl (Prompt.name.bind Reads.name fun _ => (Prompt.word _ _).bind (Reads.of_word _ _)
      fun _ => Prompt.literal.bind Reads.literal fun _ => .pure _)
  · exact .inl (Prompt.name.bind Reads.name fun _ => Prompt.noParameters.bind Reads.noParameters
      fun _ => .opening _)
  · exact .inl (Prompt.name.bind Reads.name fun _ => .optionalParameters_opening _)
  · exact .inl (Prompt.argument.bind Reads.argument fun _ => .pure _)
  · exact .inl (Prompt.argument.bind Reads.argument fun _ => .pure _)
  · exact .inr rfl
  · split
    · exact .inl (Prompt.noParameters.bind Reads.noParameters fun _ => .pure _)
    · exact .inr rfl

end Reader

end Node

end ViewLang
