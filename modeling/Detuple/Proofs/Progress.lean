import Detuple.Proofs.Descent
import Detuple.Proofs.Refusals
import Detuple.Reading.Descent

/-!
# Proofs: reading by descent makes progress

Of a reading it is said that it ends and leaves some of the lexemes, and what holds of these if it
succeeds (`Ends`); this carries over from the parts of a reading to the whole. A phrase that is read
has been spelled by the lexemes that are gone, and no phrase is spelled by none, so every round of a
loop leaves fewer lexemes than it has met. Hence going round comes to an end, and by the same
induction there is only one way to go round (`loop_unique`), so the loops of the reading are these.
-/

namespace Detuple

/-! ## Phrases -/

/-- Some lexeme spells the beginning of any phrase. -/
theorem Phrase.lexemes_ne_nil : ∀ (goal : Phrase) (tree : goal.Tree), goal.lexemes tree ≠ []
  | .expr, .ident _ | .expr, .num _ | .expr, .tuple _ | .expr, .new _ _ => List.cons_ne_nil _ _
  | .args, _ => List.cons_ne_nil _ _
  | .stmt, .var _ _ | .stmt, .ret _ | .stmt, .block _ => List.cons_ne_nil _ _
  | .block, _ => List.cons_ne_nil _ _

/-- Reading that is refused leaves some of the last lexemes. -/
theorem Phrase.suffix_of_refused {goal : Phrase} {wanted : Wanted} {xs rest : List String}
    (h : goal.read xs = .refused wanted rest) : rest <:+ xs := by
  obtain ⟨read, left, last, rfl, hsteps, hstop⟩ := (State.start goal).exists_stop xs
  rw [Phrase.read, State.run_append left hsteps] at h
  by_cases hfin : ∃ tree, last = .finished tree
  · obtain ⟨tree, rfl⟩ := hfin
    rw [State.run_finished] at h
    cases h
  · rw [State.run_of_stops hstop (not_exists.1 hfin)] at h
    cases h
    exact List.suffix_append read rest

namespace Descent

variable {α β : Type} {xs ys rest : List String}

/-- What comes before a reading only matters for what it reads and what it leaves. -/
theorem on_bind_congr {m m' : Descent α} (h : m.on xs = m'.on ys) (f : α → Descent β) :
    (m >>= f).on xs = (m' >>= f).on ys := by
  have hm : m xs = m' ys := h
  show ((m xs).bind _ : Option (Except Complaint β × List String)) = (m' ys).bind _
  rw [hm]

/-! ## Readings that end -/

/-- A reading of some lexemes ends and leaves the last of them, and if it succeeds something holds
of what it has read and what it leaves. -/
def Ends (m : Descent α) (xs : List String) (post : α → List String → Prop) : Prop :=
  ∃ result rest, m.on xs = some (result, rest) ∧ rest <:+ xs ∧ ∀ a, result = .ok a → post a rest

/-- A reading that succeeds on the last of the lexemes ends. -/
theorem Ends.of_ok {m : Descent α} {a : α} {post : α → List String → Prop}
    (hon : m.on xs = some (.ok a, rest)) (hrest : rest <:+ xs) (hpost : post a rest) :
    m.Ends xs post := by
  refine ⟨.ok a, rest, hon, hrest, ?_⟩
  rintro _ ⟨⟩
  exact hpost

/-- A reading that fails ends as well, and nothing need hold then. -/
theorem Ends.of_error {m : Descent α} {c : Complaint} {post : α → List String → Prop}
    (hon : m.on xs = some (.error c, rest)) (hrest : rest <:+ xs) : m.Ends xs post :=
  ⟨.error c, rest, hon, hrest, nofun⟩

/-- What follows from what holds at the end holds at the end. -/
theorem Ends.imp {m : Descent α} {mid post : α → List String → Prop} (hm : m.Ends xs mid)
    (h : ∀ a rest, mid a rest → post a rest) : m.Ends xs post := by
  obtain ⟨result, rest, hon, hrest, hmid⟩ := hm
  exact ⟨result, rest, hon, hrest, fun a ha => h a rest (hmid a ha)⟩

/-- One reading after another ends, if the second does on whatever the first can leave. -/
theorem Ends.bind {m : Descent α} {f : α → Descent β} {mid : α → List String → Prop}
    {post : β → List String → Prop} (hm : m.Ends xs mid)
    (hf : ∀ a rest, mid a rest → (f a).Ends rest post) : (m >>= f).Ends xs post := by
  obtain ⟨result, rest, hon, hrest, hmid⟩ := hm
  cases result with
  | error c => exact .of_error (on_bind_of_error hon f) hrest
  | ok a =>
    obtain ⟨result, left, hon', hleft, hpost⟩ := hf a rest (hmid a rfl)
    exact ⟨result, left, (on_bind_of_ok hon f).trans hon', hleft.trans hrest, hpost⟩

theorem ends_pure {a : α} {post : α → List String → Prop} (h : post a xs) :
    (pure a : Descent α).Ends xs post :=
  .of_ok rfl List.suffix_rfl h

/-- Looking at a lexeme ends, and what is done next may count on the lexeme being there. -/
theorem ends_peek {f : String → Descent α} {post : α → List String → Prop}
    (hf : ∀ x rest, xs = x :: rest → (f x).Ends (x :: rest) post) : (peek >>= f).Ends xs post := by
  cases xs with
  | nil => exact .of_error (on_bind_of_error on_peek_nil f) List.suffix_rfl
  | cons x rest =>
    have hpeek : peek.Ends (x :: rest) fun y left => y = x ∧ left = x :: rest :=
      .of_ok (on_peek_cons x rest) List.suffix_rfl ⟨rfl, rfl⟩
    refine hpeek.bind ?_
    rintro _ _ ⟨rfl, rfl⟩
    exact hf _ _ rfl

/-- The check of a lexeme ends, and takes nothing but this lexeme. -/
theorem ends_expect (text : String) (xs : List String) :
    (expect text).Ends xs fun _ rest => xs = text :: rest := by
  cases xs with
  | nil => exact .of_error (on_expect_nil text) List.suffix_rfl
  | cons x rest =>
    by_cases h : x = text
    · subst h
      exact .of_ok (on_expect_self x rest) (List.suffix_cons x rest) rfl
    · exact .of_error (on_expect_of_ne h rest) List.suffix_rfl

/-! ## Phrases and rounds -/

/-- Reading any phrase by descent comes to the end that the states come to. -/
theorem phrase_on_eq_read (goal : Phrase) (xs : List String) :
    (phrase goal).on xs = some (goal.read xs).outcome := by
  obtain ⟨hexpr, hargs, hstmt, hblock⟩ := on_eq_read xs
  cases goal with
  | expr => exact hexpr
  | args => exact hargs
  | stmt => exact hstmt
  | block => exact hblock

/-- Reading a phrase ends, and the lexemes that are gone spell it. -/
theorem ends_phrase (goal : Phrase) (xs : List String) :
    (phrase goal).Ends xs fun tree rest => xs = goal.lexemes tree ++ rest := by
  have hon := phrase_on_eq_read goal xs
  cases hread : goal.read xs with
  | done tree rest =>
    rw [hread] at hon
    obtain ⟨-, hxs⟩ := Phrase.read_eq_done_iff.1 hread
    exact .of_ok hon (hxs ▸ List.suffix_append _ _) hxs
  | refused wanted rest =>
    rw [hread] at hon
    exact .of_error hon (Phrase.suffix_of_refused hread)

/-- A round over statements ends, and has taken a statement with its semicolon. -/
theorem ends_member (xs : List String) :
    member.Ends xs fun s rest => xs = s.lexemes ++ s.ending ++ rest := by
  refine (ends_phrase .stmt xs).bind fun s left hleft => ?_
  have hsemi : (expect ";").Ends left fun _ rest => xs = s.lexemes ++ [";"] ++ rest := by
    refine (ends_expect ";" left).imp fun _ rest hrest => ?_
    rw [hleft, hrest, List.append_assoc]
    rfl
  cases s with
  | var name init => exact hsemi.bind fun _ rest hrest => ends_pure hrest
  | ret value => exact hsemi.bind fun _ rest hrest => ends_pure hrest
  | block statements =>
    refine ends_pure ?_
    rw [hleft]
    exact congrArg (· ++ left) (List.append_nil _).symm

/-- A round over items ends, and has taken a comma and an item. -/
theorem ends_item (xs : List String) :
    item.Ends xs fun e rest => xs = "," :: e.lexemes ++ rest := by
  refine (ends_expect "," xs).bind fun _ left hleft => ?_
  refine (ends_phrase .expr left).imp fun e rest hrest => ?_
  rw [hleft, hrest]
  rfl

/-! ## Loops -/

/-- Behind a spelling that is not empty, fewer lexemes are left. -/
theorem length_lt_of_spelled {spelling : List String} (hne : spelling ≠ [])
    (h : xs = spelling ++ rest) : rest.length < xs.length := by
  rw [h, List.length_append]
  exact Nat.lt_add_of_pos_left (List.length_pos_iff.2 hne)

/-- Both halves of going round in one. -/
theorem loop_eq (close : String) (round : Descent α) : loop close round = do
    if (← peek) = close then
      expect close
      return []
    else
      let a ← round
      return a :: (← loop close round) := by
  conv_lhs => rw [loop, again]

/-- Going round ends if every round does and leaves fewer lexemes, and the lexemes that are gone
spell the rounds and what closes the list. The induction is on the lexemes that are left. -/
theorem ends_loop (close : String) {round : Descent α} {spelling : α → List String}
    (hround : ∀ xs, round.Ends xs fun a rest => xs = spelling a ++ rest)
    (hspelling : ∀ a, spelling a ≠ []) (xs : List String) :
    (loop close round).Ends xs fun as rest => xs = as.flatMap spelling ++ close :: rest := by
  rw [loop_eq]
  refine ends_peek fun x rest hxs => ?_
  rw [← hxs]
  by_cases hclose : x = close
  · rw [if_pos hclose]
    exact (ends_expect close xs).bind fun _ left hleft => ends_pure hleft
  · rw [if_neg hclose]
    refine (hround xs).bind fun a left hleft => ?_
    have hless : left.length < xs.length := length_lt_of_spelled (hspelling a) hleft
    refine (ends_loop close hround hspelling left).bind fun as last hlast => ends_pure ?_
    rw [hleft, hlast, List.flatMap_cons, List.append_assoc]
termination_by xs.length
decreasing_by exact hless

/-- There is only one way to go round, if every round leaves fewer lexemes. The induction is on
these. -/
theorem loop_unique {close : String} {m : Descent (List α)} {round : Descent α}
    {spelling : α → List String} (hm : m = do
      if (← peek) = close then
        expect close
        return []
      else
        let a ← round
        return a :: (← m))
    (hround : ∀ xs, round.Ends xs fun a rest => xs = spelling a ++ rest)
    (hspelling : ∀ a, spelling a ≠ []) (xs : List String) :
    m.on xs = (loop close round).on xs := by
  rw [hm, loop_eq]
  cases xs with
  | nil => rw [on_bind_of_error on_peek_nil, on_bind_of_error on_peek_nil]
  | cons x ys =>
    rw [on_bind_of_ok (on_peek_cons x ys), on_bind_of_ok (on_peek_cons x ys)]
    by_cases hclose : x = close
    · rw [if_pos hclose, if_pos hclose]
    · rw [if_neg hclose, if_neg hclose]
      obtain ⟨result, left, hon, -, hleft⟩ := hround (x :: ys)
      cases result with
      | error c => rw [on_bind_of_error hon, on_bind_of_error hon]
      | ok a =>
        have hless : left.length < (x :: ys).length :=
          length_lt_of_spelled (hspelling a) (hleft a rfl)
        rw [on_bind_of_ok hon, on_bind_of_ok hon]
        exact on_bind_congr (loop_unique hm hround hspelling left) _
termination_by xs.length
decreasing_by exact hless

/-- The statements of a block are read round by round. -/
theorem members_eq : members = do
    if (← peek) = closeBrace then
      expect closeBrace
      return []
    else
      let s ← member
      return s :: (← members) := by
  conv_lhs => rw [members]
  refine congrArg (peek >>= ·) (funext fun x => ?_)
  split
  · rfl
  · rw [member, bind_assoc]
    refine congrArg (stmt >>= ·) (funext fun s => ?_)
    cases s with
    | var name init => rw [bind_assoc]; simp
    | ret value => rw [bind_assoc]; simp
    | block statements => simp

/-- Further items of a list are read round by round. -/
theorem moreItems_eq : moreItems = do
    if (← peek) = ")" then
      expect ")"
      return []
    else
      let e ← item
      return e :: (← moreItems) := by
  conv_lhs => rw [moreItems]
  refine congrArg (peek >>= ·) (funext fun x => ?_)
  split
  · rfl
  · rw [item, bind_assoc]

/-! ## Positions -/

/-- A reading that ends, told by the lexemes, is told by positions among them. -/
theorem Consumes.of_ends {m : Descent α} {spelling : α → List String}
    (h : ∀ xs, m.Ends xs fun a rest => xs = spelling a ++ rest) (hspelling : ∀ a, spelling a ≠ []) :
    m.Consumes spelling := by
  intro lexemes position
  obtain ⟨result, rest, hon, ⟨read, hread⟩, hpost⟩ := h (lexemes.drop position)
  have hrest : lexemes.drop (position + read.length) = rest := by
    rw [← List.drop_drop, ← hread, List.drop_left]
  have hlength : read.length + rest.length = lexemes.length - position := by
    rw [← List.length_append, hread, List.length_drop]
  refine ⟨result, position + read.length, hrest.symm ▸ hon, Nat.le_add_right _ _, by omega, ?_⟩
  intro a ha
  obtain rfl : read = spelling a := List.append_cancel_right (hread.trans (hpost a ha))
  have hpos : 0 < (spelling a).length := List.length_pos_iff.2 (hspelling a)
  refine ⟨by omega, by omega, ?_⟩
  rw [List.extract_eq_take_drop, Nat.add_sub_cancel_left, ← hread, List.take_left]

/-- Going round consumes the lexemes of the rounds and the one that closes the list. -/
theorem consumes_loop (close : String) {round : Descent α} {spelling : α → List String}
    (hround : ∀ xs, round.Ends xs fun a rest => xs = spelling a ++ rest)
    (hspelling : ∀ a, spelling a ≠ []) :
    (loop close round).Consumes fun as => as.flatMap spelling ++ [close] := by
  have hne : ∀ as : List α, as.flatMap spelling ++ [close] ≠ [] := fun as =>
    List.append_ne_nil_of_right_ne_nil _ (List.cons_ne_nil _ _)
  refine .of_ends (fun xs => (ends_loop close hround hspelling xs).imp fun as rest h => ?_) hne
  rw [h, List.append_assoc]
  rfl

/-- **Reading by descent comes to an end, wherever it begins, and what it passes spells what it has
read.** It never goes beyond the last lexeme, and if it succeeds it has moved on by at least one.
This holds of all phrases, where a statement is spelled without the semicolon behind it, and of
every round of the two loops. So these loops come to an end as well, and the functions that read the
statements of a block, or further items of a list, are these loops. The end is the one that the
states come to, and what is read off the front of some lexemes can be any readable phrase, and
nothing else. -/
theorem phrase_consumes_spelling :
    (∀ goal : Phrase, (phrase goal).Consumes goal.lexemes) ∧
    (member.Consumes (fun s => s.lexemes ++ s.ending) ∧
      (loop closeBrace member).Consumes
        (fun ss => ss.flatMap (fun s => s.lexemes ++ s.ending) ++ [closeBrace]) ∧
      ∀ lexemes, members.on lexemes = (loop closeBrace member).on lexemes) ∧
    (item.Consumes (fun e => "," :: e.lexemes) ∧
      (loop ")" item).Consumes (fun es => es.flatMap (fun e => "," :: e.lexemes) ++ [")"]) ∧
      ∀ lexemes, moreItems.on lexemes = (loop ")" item).on lexemes) ∧
    ∀ (goal : Phrase) (lexemes : List String),
      (phrase goal).on lexemes = some (goal.read lexemes).outcome ∧
      ∀ (tree : goal.Tree) (rest : List String),
        (phrase goal).on lexemes = some (.ok tree, rest) ↔
          goal.Readable tree ∧ lexemes = goal.lexemes tree ++ rest := by
  have hmember : ∀ s : Stmt, s.lexemes ++ s.ending ≠ [] := fun s =>
    List.append_ne_nil_of_left_ne_nil (Phrase.lexemes_ne_nil .stmt s) _
  have hitem : ∀ e : Expr, "," :: e.lexemes ≠ [] := fun e => List.cons_ne_nil _ _
  refine ⟨fun goal => .of_ends (ends_phrase goal) goal.lexemes_ne_nil,
    ⟨.of_ends ends_member hmember, consumes_loop closeBrace ends_member hmember,
      loop_unique members_eq ends_member hmember⟩,
    ⟨.of_ends ends_item hitem, consumes_loop ")" ends_item hitem,
      loop_unique moreItems_eq ends_item hitem⟩,
    fun goal lexemes => ⟨phrase_on_eq_read goal lexemes, fun tree rest => ?_⟩⟩
  rw [phrase_on_eq_read, Option.some_inj, ← Phrase.read_eq_done_iff]
  cases goal.read lexemes with
  | done tree' rest' => simp [Reading.outcome]
  | refused wanted rest' => simp [Reading.outcome]

end Descent

end Detuple
