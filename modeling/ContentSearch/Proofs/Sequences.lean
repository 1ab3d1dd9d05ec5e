import ContentSearch.Clause
import ContentSearch.Draft.Call
import Mathlib.Computability.Language
import Mathlib.Data.List.Chain

/-!
# The sequences of a stage

Modifiers aside, every clause of a query is a restriction or a connective.  A
sequence that can be written has restrictions and connectives in turn: pairs of
them where a restriction is wanted, and a restriction followed by such pairs
where a connective is wanted.  The two shapes are stated as formal languages.

A clause may hold a sequence of its own, and that one further sequences.  This
file also lists the sequences of a query at every depth.
-/

namespace ContentSearch

open Computability

/-- What a clause is for, if it is not a modifier. -/
inductive Role where
  | restriction
  | connective
  deriving DecidableEq

namespace Role

def before : Role → Stage
  | restriction => .wantsRestriction
  | connective => .wantsConnective

def after : Role → Stage
  | restriction => .wantsConnective
  | connective => .wantsRestriction

theorem after_eq_before_iff_ne (first second : Role) :
    first.after = second.before ↔ first ≠ second := by
  cases first <;> cases second <;> decide

end Role

/-- No role occurs twice in a row, and the first one is a restriction. -/
def Alternating (roles : List Role) : Prop :=
  roles.IsChain (· ≠ ·) ∧ ∀ first ∈ roles.head?, first = .restriction

/-- The sequences of roles that lead to a stage. -/
def Stage.language : Stage → Language Role
  | .wantsRestriction =>
      ({[.restriction, .connective]} : Language Role)∗
  | .wantsConnective =>
      {[.restriction]} * ({[.connective, .restriction]} : Language Role)∗

namespace Stage

private theorem mem_kstar_singleton_iff (word roles : List Role) :
    roles ∈ ({word} : Language Role)∗ ↔
      ∃ count, roles = (List.replicate count word).flatten := by
  rw [Language.mem_kstar]
  constructor
  · rintro ⟨words, rfl, members⟩
    exact ⟨words.length, congrArg List.flatten
      (List.eq_replicate_of_mem fun other member => members other member)⟩
  · rintro ⟨count, rfl⟩
    exact ⟨List.replicate count word, rfl,
      fun other member => List.eq_of_mem_replicate member⟩

private theorem restriction_append_flatten (count : Nat) :
    [Role.restriction] ++
        (List.replicate count [Role.connective, Role.restriction]).flatten =
      (List.replicate count [Role.restriction, Role.connective]).flatten ++
        [Role.restriction] := by
  induction count with
  | zero => rfl
  | succ count inductionHypothesis =>
      rw [List.replicate_succ, List.replicate_succ, List.flatten_cons,
        List.flatten_cons, List.append_assoc, ← inductionHypothesis]
      rfl

theorem mem_language_wantsRestriction_iff (roles : List Role) :
    roles ∈ language .wantsRestriction ↔
      ∃ count, roles =
        (List.replicate count [Role.restriction, Role.connective]).flatten :=
  mem_kstar_singleton_iff _ _

theorem mem_language_wantsConnective_iff (roles : List Role) :
    roles ∈ language .wantsConnective ↔
      ∃ count, roles =
        (List.replicate count [Role.restriction, Role.connective]).flatten ++
          [Role.restriction] := by
  simp only [language, Language.mem_mul, mem_kstar_singleton_iff]
  constructor
  · rintro ⟨first, rfl, rest, ⟨count, rfl⟩, rfl⟩
    exact ⟨count, restriction_append_flatten count⟩
  · rintro ⟨count, rfl⟩
    exact ⟨[.restriction], rfl, _, ⟨count, rfl⟩,
      restriction_append_flatten count⟩

@[simp]
theorem nil_mem_language_iff (stage : Stage) :
    [] ∈ stage.language ↔ stage = .wantsRestriction := by
  cases stage with
  | wantsRestriction =>
      simpa using (mem_language_wantsRestriction_iff []).mpr ⟨0, rfl⟩
  | wantsConnective =>
      simp [mem_language_wantsConnective_iff]

/-- A sequence ends at a stage if its last role leads there and the roles
before that one end where the last one fits. -/
theorem append_mem_language_iff (roles : List Role) (role : Role)
    (stage : Stage) :
    roles ++ [role] ∈ stage.language ↔
      stage = role.after ∧ roles ∈ role.before.language := by
  cases stage with
  | wantsConnective =>
      rw [mem_language_wantsConnective_iff]
      constructor
      · rintro ⟨count, equal⟩
        obtain ⟨rfl, singletons⟩ := List.append_inj' equal rfl
        obtain rfl := List.singleton_injective singletons
        exact ⟨rfl, (mem_language_wantsRestriction_iff _).mpr ⟨count, rfl⟩⟩
      · rintro ⟨follows, member⟩
        cases role with
        | restriction =>
            obtain ⟨count, rfl⟩ :=
              (mem_language_wantsRestriction_iff _).mp member
            exact ⟨count, rfl⟩
        | connective => simp [Role.after] at follows
  | wantsRestriction =>
      rw [mem_language_wantsRestriction_iff]
      constructor
      · rintro ⟨count, equal⟩
        cases count with
        | zero => simp at equal
        | succ count =>
            rw [List.replicate_succ', List.flatten_append] at equal
            have split : roles ++ [role] =
                ((List.replicate count
                    [Role.restriction, Role.connective]).flatten ++
                  [Role.restriction]) ++ [Role.connective] := by
              simpa using equal
            obtain ⟨rfl, singletons⟩ := List.append_inj' split rfl
            obtain rfl := List.singleton_injective singletons
            exact ⟨rfl, (mem_language_wantsConnective_iff _).mpr
              ⟨count, rfl⟩⟩
      · rintro ⟨follows, member⟩
        cases role with
        | restriction => simp [Role.after] at follows
        | connective =>
            obtain ⟨count, rfl⟩ :=
              (mem_language_wantsConnective_iff _).mp member
            exact ⟨count + 1, by simp [List.replicate_succ']⟩

theorem eq_of_mem_language {first second : Stage} {roles : List Role}
    (memberFirst : roles ∈ first.language)
    (memberSecond : roles ∈ second.language) : first = second := by
  cases roles using List.reverseRecOn with
  | nil =>
      rw [(nil_mem_language_iff first).mp memberFirst,
        (nil_mem_language_iff second).mp memberSecond]
  | append_singleton earlier last =>
      rw [((append_mem_language_iff _ _ _).mp memberFirst).1,
        ((append_mem_language_iff _ _ _).mp memberSecond).1]

end Stage

/-- Roles alternate exactly if they lead to one of the two stages. -/
theorem alternating_iff_exists_mem_language (roles : List Role) :
    Alternating roles ↔ ∃ stage : Stage, roles ∈ stage.language := by
  induction roles using List.reverseRecOn with
  | nil => simp [Alternating]
  | append_singleton roles role inductionHypothesis =>
      have fits (stage : Stage) (member : roles ∈ stage.language) :
          stage = role.before ↔
            (∀ last ∈ roles.getLast?, last ≠ role) ∧
              (roles = [] → role = .restriction) := by
        induction roles using List.reverseRecOn with
        | nil =>
            obtain rfl := (Stage.nil_mem_language_iff stage).mp member
            cases role <;> simp [Role.before]
        | append_singleton earlier last _ =>
            obtain ⟨rfl, -⟩ :=
              (Stage.append_mem_language_iff earlier last stage).mp member
            simp [Role.after_eq_before_iff_ne]
      have parts : Alternating (roles ++ [role]) ↔
          Alternating roles ∧ (∀ last ∈ roles.getLast?, last ≠ role) ∧
            (roles = [] → role = .restriction) := by
        unfold Alternating
        rw [List.isChain_append]
        cases roles with
        | nil => simp
        | cons first rest =>
            simp
            tauto
      rw [parts, inductionHypothesis]
      constructor
      · rintro ⟨⟨stage, member⟩, ends⟩
        obtain rfl := (fits stage member).mpr ends
        exact ⟨role.after,
          (Stage.append_mem_language_iff _ _ _).mpr ⟨rfl, member⟩⟩
      · rintro ⟨stage, member⟩
        obtain ⟨-, earlier⟩ :=
          (Stage.append_mem_language_iff _ _ _).mp member
        exact ⟨⟨_, earlier⟩, (fits _ earlier).mp rfl⟩

theorem Alternating.of_append {first second : List Role}
    (alternating : Alternating (first ++ second)) : Alternating first := by
  refine ⟨alternating.1.left_of_append, ?_⟩
  intro role member
  cases first with
  | nil => simp at member
  | cons head rest => exact alternating.2 role (by simpa using member)

namespace Clause

/-- What the clause is for; a modifier has no role. -/
def role? : Clause → Option Role
  | condition _ => some .restriction
  | nested _ => some .restriction
  | negated _ => some .restriction
  | connective _ => some .connective
  | modifier _ => none

/-- The roles of the clauses of a sequence, modifiers aside. -/
def roles (clauses : List Clause) : List Role :=
  clauses.filterMap role?

mutual

/-- The sequences that a clause holds, at every depth. -/
def innerSequences : Clause → List (List Clause)
  | nested inner => inner :: listInnerSequences inner
  | negated inner => inner :: listInnerSequences inner
  | _ => []

def listInnerSequences : List Clause → List (List Clause)
  | [] => []
  | clause :: rest => clause.innerSequences ++ listInnerSequences rest

end

/-- A sequence together with those that its clauses hold, at every depth. -/
def sequences (clauses : List Clause) : List (List Clause) :=
  clauses :: listInnerSequences clauses

/-- The clause stands in the query, at some depth. -/
def Occurs (clause : Clause) (clauses : List Clause) : Prop :=
  ∃ sequence ∈ sequences clauses, clause ∈ sequence

/-- The clauses lead to a stage, and every sequence that they hold, at every
depth, leads to the stage where a connective is wanted. -/
structure Fits (stage : Stage) (clauses : List Clause) : Prop where
  outer : roles clauses ∈ stage.language
  inner : ∀ sequence ∈ listInnerSequences clauses,
    roles sequence ∈ Stage.language .wantsConnective

@[simp]
theorem roles_append (first second : List Clause) :
    roles (first ++ second) = roles first ++ roles second :=
  List.filterMap_append

theorem mem_listInnerSequences_iff (sequence clauses : List Clause) :
    sequence ∈ listInnerSequences clauses ↔
      ∃ clause ∈ clauses, sequence ∈ clause.innerSequences := by
  induction clauses with
  | nil => simp [listInnerSequences]
  | cons clause rest inductionHypothesis =>
      simp [listInnerSequences, inductionHypothesis]

theorem occurs_cons_iff (clause first : Clause) (rest : List Clause) :
    Occurs clause (first :: rest) ↔
      Occurs clause [first] ∨ Occurs clause rest := by
  simp only [Occurs, sequences, listInnerSequences, List.append_nil,
    List.mem_append, List.mem_cons, or_and_right, exists_or, exists_eq_left,
    List.not_mem_nil, or_false]
  exact or_or_or_comm

/-- The sequences inside a clause all fit if the one that it holds does. -/
theorem forall_innerSequences_iff (clause : Clause) :
    (∀ sequence ∈ clause.innerSequences,
        roles sequence ∈ Stage.language .wantsConnective) ↔
      ∀ inner, clause = nested inner ∨ clause = negated inner →
        Fits .wantsConnective inner := by
  have split (inner : List Clause) :
      (∀ sequence ∈ inner :: listInnerSequences inner,
          roles sequence ∈ Stage.language .wantsConnective) ↔
        Fits .wantsConnective inner := by
    rw [List.forall_mem_cons]
    exact ⟨fun fits => ⟨fits.1, fits.2⟩, fun fits => ⟨fits.1, fits.2⟩⟩
  cases clause with
  | nested inner => simp [innerSequences, ← split]
  | negated inner => simp [innerSequences, ← split]
  | condition restriction => simp [innerSequences]
  | connective word => simp [innerSequences]
  | modifier adjustment => simp [innerSequences]

/-- Depth by depth: a sequence fits a stage if its roles do and the sequences
that its clauses hold fit the stage where a connective is wanted. -/
theorem fits_iff (stage : Stage) (clauses : List Clause) :
    Fits stage clauses ↔
      roles clauses ∈ stage.language ∧
        ∀ inner, nested inner ∈ clauses ∨ negated inner ∈ clauses →
          Fits .wantsConnective inner := by
  have inside : (∀ sequence ∈ listInnerSequences clauses,
        roles sequence ∈ Stage.language .wantsConnective) ↔
      ∀ inner, nested inner ∈ clauses ∨ negated inner ∈ clauses →
        Fits .wantsConnective inner := by
    constructor
    · intro members inner holds
      have fromClause : ∀ clause ∈ clauses,
          clause = nested inner ∨ clause = negated inner →
            Fits .wantsConnective inner := by
        intro clause member
        refine (forall_innerSequences_iff clause).mp ?_ inner
        intro sequence inside
        exact members sequence ((mem_listInnerSequences_iff _ _).mpr
          ⟨clause, member, inside⟩)
      rcases holds with member | member
      · exact fromClause _ member (.inl rfl)
      · exact fromClause _ member (.inr rfl)
    · intro holds sequence member
      obtain ⟨clause, clauseMember, inside⟩ :=
        (mem_listInnerSequences_iff _ _).mp member
      refine (forall_innerSequences_iff clause).mpr ?_ sequence inside
      rintro inner (rfl | rfl)
      · exact holds inner (.inl clauseMember)
      · exact holds inner (.inr clauseMember)
  rw [← inside]
  exact ⟨fun fits => ⟨fits.outer, fits.inner⟩, fun fits => ⟨fits.1, fits.2⟩⟩

theorem roles_append_singleton_mem_iff (clauses : List Clause)
    (clause : Clause) (stage : Stage) :
    roles (clauses ++ [clause]) ∈ stage.language ↔
      ∃ earlier : Stage, roles clauses ∈ earlier.language ∧
        (∀ role ∈ clause.role?, earlier = role.before) ∧
          stage = (clause.role?.map Role.after).getD earlier := by
  rw [roles_append]
  cases role : clause.role? with
  | none => simp [roles, role]
  | some last =>
      have single : roles [clause] = [last] := by simp [roles, role]
      rw [single, Stage.append_mem_language_iff]
      constructor
      · rintro ⟨follows, member⟩
        exact ⟨last.before, member, by simp, by simpa using follows⟩
      · rintro ⟨earlier, member, fits, follows⟩
        obtain rfl := fits last rfl
        exact ⟨by simpa using follows, member⟩

/-- A clause can be added where its role fits, if what it holds fits. -/
theorem fits_append_singleton_iff (clauses : List Clause) (clause : Clause)
    (stage : Stage) :
    Fits stage (clauses ++ [clause]) ↔
      ∃ earlier : Stage, Fits earlier clauses ∧
        (∀ role ∈ clause.role?, earlier = role.before) ∧
          stage = (clause.role?.map Role.after).getD earlier ∧
            ∀ inner, clause = nested inner ∨ clause = negated inner →
              Fits .wantsConnective inner := by
  constructor
  · intro fits
    obtain ⟨outer, inside⟩ := (fits_iff _ _).mp fits
    obtain ⟨earlier, member, before, after⟩ :=
      (roles_append_singleton_mem_iff _ _ _).mp outer
    refine ⟨earlier, (fits_iff _ _).mpr ⟨member, ?_⟩, before, after, ?_⟩
    · rintro inner (holds | holds)
      · exact inside inner (.inl (List.mem_append_left _ holds))
      · exact inside inner (.inr (List.mem_append_left _ holds))
    · rintro inner (rfl | rfl)
      · exact inside inner (.inl (by simp))
      · exact inside inner (.inr (by simp))
  · rintro ⟨earlier, fits, before, after, inside⟩
    obtain ⟨member, insideEarlier⟩ := (fits_iff _ _).mp fits
    refine (fits_iff _ _).mpr
      ⟨(roles_append_singleton_mem_iff _ _ _).mpr
        ⟨earlier, member, before, after⟩, ?_⟩
    intro inner holds
    simp only [List.mem_append, List.mem_singleton] at holds
    rcases holds with (holds | holds) | (holds | holds)
    · exact insideEarlier inner (.inl holds)
    · exact inside inner (.inl holds.symm)
    · exact insideEarlier inner (.inr holds)
    · exact inside inner (.inr holds.symm)

/-- Every sequence of a query that fits has its roles in turn. -/
theorem Fits.alternating {stage : Stage} {clauses sequence : List Clause}
    (fits : Fits stage clauses) (member : sequence ∈ sequences clauses) :
    Alternating (roles sequence) := by
  rw [alternating_iff_exists_mem_language]
  rcases List.mem_cons.mp member with rfl | inside
  · exact ⟨stage, fits.outer⟩
  · exact ⟨_, fits.inner sequence inside⟩

/-- Modifiers are added only where a connective is wanted. -/
def ModifiersLate (clauses : List Clause) : Prop :=
  ∀ before modifier after, clauses = before ++ .modifier modifier :: after →
    roles before ∈ Stage.language .wantsConnective

/-- A restriction stands at the start of the sequence or right after a
connective. -/
def Parted (clauses : List Clause) : Prop :=
  clauses.IsChain fun earlier later =>
    later.role? = some .restriction → earlier.role? = some .connective

/-- A modifier before a restriction would stand where a restriction is wanted. -/
theorem parted_of_modifiersLate {clauses : List Clause}
    (alternating : Alternating (roles clauses))
    (late : ModifiersLate clauses) : Parted clauses := by
  refine List.isChain_iff_forall_rel_of_append_cons_cons.mpr ?_
  rintro earlier later before after rfl isRestriction
  have wanted : roles (before ++ [earlier]) ∈
      Stage.language .wantsRestriction := by
    have split : before ++ earlier :: later :: after =
        (before ++ [earlier] ++ [later]) ++ after := by
      simp
    rw [split, roles_append] at alternating
    obtain ⟨stage, member⟩ :=
      (alternating_iff_exists_mem_language _).mp alternating.of_append
    obtain ⟨reached, reachedMember, fits, -⟩ :=
      (roles_append_singleton_mem_iff _ _ _).mp member
    rw [fits .restriction isRestriction] at reachedMember
    exact reachedMember
  obtain ⟨reached, reachedMember, -, follows⟩ :=
    (roles_append_singleton_mem_iff _ _ _).mp wanted
  cases role : earlier.role? with
  | none =>
      cases earlier with
      | modifier adjustment =>
          have reachedConnective := late before adjustment _ rfl
          have wantedEq : Stage.wantsRestriction = reached := by
            simpa [role] using follows
          have reachedEq :=
            Stage.eq_of_mem_language reachedMember reachedConnective
          exact absurd (wantedEq.trans reachedEq) (by decide)
      | _ => simp [role?] at role
  | some last =>
      cases last with
      | connective => rfl
      | restriction => simp [role, Role.after] at follows

/-- A sequence that can be nested is not empty and does not end in a
connective. -/
theorem getLast?_of_mem_language {clauses : List Clause}
    (member : roles clauses ∈ Stage.language .wantsConnective) :
    clauses ≠ [] ∧ ∀ word, clauses.getLast? ≠ some (connective word) := by
  induction clauses using List.reverseRecOn with
  | nil =>
      exact absurd member (by simp [roles])
  | append_singleton earlier last _ =>
      refine ⟨by simp, ?_⟩
      intro word ends
      obtain rfl : last = connective word := by simpa using ends
      rw [roles_append] at member
      have follows := ((Stage.append_mem_language_iff (roles earlier)
        .connective _).mp member).1
      exact absurd follows (by decide)

end Clause

end ContentSearch
