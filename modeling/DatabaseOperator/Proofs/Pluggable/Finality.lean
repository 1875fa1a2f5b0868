import DatabaseOperator.Proofs.Pluggable.Completion

/-!
# An action that was accepted is final

An action on a pluggable database is carried out once. Two things keep it from
being sent again: one that makes or finds a pluggable database is not needed
where there is one, and any other is not needed where it is the last one that
was completed. Once either is on record, every pass leaves it there, whatever
the remote answers.

- `Status.Fulfils`: what is on record once a request has been accepted.
- `Pass.fulfils_of_taken`: a pass whose request is accepted puts it there.
- `Pass.actionsSent_of_fulfilled`, `Pass.fulfils_of_saved`: a pass that finds it
  there sends nothing, and leaves it.
- `accepted_action_is_final`: after the pass in which the request was accepted,
  nothing is sent.
-/

namespace DatabaseOperator

variable {request : PdbRequest}

/-- Nothing is left to be done for a request: there is an object, and if the
request was to change one, it is the last that was completed. -/
structure Status.Fulfils (s : Status) (request : PdbRequest) : Prop where
  identified : s.identity.isSome = true
  completed : request.action.givesIdentity = false →
    s.lastCompletedAction = some request.signature

theorem Status.Fulfils.nextAction? {r : ManagedResource} {s : Status}
    (h : s.Fulfils request) (declares : r.Declares request)
    (hdel : r.deletionRequested = false) : r.nextAction? s = none := by
  cases gives : request.action.givesIdentity with
  | true => exact declares.nextAction?_of_givesIdentity hdel h.identified gives
  | false =>
    exact declares.nextAction?_of_completed hdel h.identified
      (h.completed gives)

namespace Pass

variable {p : Pass} {s : Status} {t : List PassEvent}
    {r : Except OperatorError Outcome}

/-! ## Accepting -/

/-- After a request was accepted that was to end with a pluggable database, one
is on record. -/
theorem isSome_identity_afterSuccess (p : Pass) (s : Status)
    (request : PdbRequest) (found : Snapshot) :
    (p.afterSuccess s (.pdb request) (some found)).1.identity.isSome
      = true := by
  cases hid : s.identity with
  | some id =>
    rw [(inherits_afterSuccess hid (.pdb request) (some found)).1, hid]
    rfl
  | none =>
    have hseen :=
      identity_observe_of_none
        (s := { s with consecutiveFailures := 0 }) hid found
    have hkept : (p.afterSuccess s (.pdb request) (some found)).1.identity
        = (observe { s with consecutiveFailures := 0 } found).identity :=
      (inherits_completePdb (observe { s with consecutiveFailures := 0 } found)
        request).1
    rw [hkept, hseen]
    rfl

/-- Where the remote has accepted the request, and the status after that is
stored, the request is fulfilled. -/
theorem fulfils_of_taken (declares : p.resource.Declares request)
    (hdel : p.resource.deletionRequested = false) (h : p.run.Walk t r)
    (taken : request.TakenIn t) (stored : AllStored t) :
    (storedAfter p.resource.status t).Fulfils request := by
  obtain ⟨name, password, answer, hmem⟩ := taken
  obtain ⟨looked, s, sends, ⟨-, hlast⟩ | ⟨refused, -⟩⟩ :=
    sends_of_mem_call declares hdel h hmem
  case inr => exact absurd stored refused
  obtain ⟨seen, -, needed, hkept⟩ := sends.inherits
  have hlast : storedAfter p.resource.status t
      = (p.afterSuccess (p.markDispatched s (.pdb request)) (.pdb request)
          ((request.withCredentials name password).call.reported answer)).1 :=
            hlast
  rw [hlast]
  refine ⟨?_, fun _ => lastCompletedAction_afterSuccess ..⟩
  cases gives : request.action.givesIdentity with
  | true =>
    obtain ⟨found, hfound⟩ :=
      (request.withCredentials name password).isSome_reported gives answer
    rw [hfound]
    exact isSome_identity_afterSuccess p _ request found
  | false =>
    -- the request was needed of an object on record, and that stays
    obtain ⟨id, hid⟩ := Option.isSome_iff_exists.mp
      (ManagedResource.isSome_identity_of_nextAction? hdel needed gives)
    have hmarked : (p.markDispatched s (.pdb request)).identity = some id :=
      hkept.1.trans hid
    rw [(inherits_afterSuccess hmarked (.pdb request) _).1, hmarked]
    rfl

/-! ## Leaving it -/

/-- A pass that finds its request fulfilled sends nothing. -/
theorem actionsSent_of_fulfilled (declares : p.resource.Declares request)
    (hdel : p.resource.deletionRequested = false)
    (fulfilled : p.resource.status.Fulfils request) (h : p.run.Walk t r) :
    p.actionsSent t = [] := by
  cases (course_of_walk hdel h).conclusion with
  | rested rests ending =>
    exact actionsSent_of_idle rests.quiet (ending_of_walk_finish ending)
  | unmarked sends credentials =>
    rw [actionsSent_append,
      actionsSent_of_quiet (sends.quiet_readCredentials credentials)]
    rfl
  | sent sends =>
    -- what was observed leaves the request fulfilled, so that nothing was
    -- needed
    obtain ⟨seen, observed, needed, -⟩ := sends.inherits
    obtain ⟨id, hid⟩ := Option.isSome_iff_exists.mp fulfilled.identified
    have hseen : seen.Fulfils request := by
      refine ⟨?_, fun gives => ?_⟩
      · rw [show seen.identity = some id
          from (inherits_of_walk_observeRemote hid observed).1.trans hid]
        rfl
      · exact (Status.lastCompletedAction_eq_of_verdicts
          (verdicts_of_walk_observeRemote observed)).trans
          (fulfilled.completed gives)
    rw [hseen.nextAction? declares hdel] at needed
    cases needed

/-- A pass that finds its request fulfilled stores nothing else. -/
theorem fulfils_of_saved (declares : p.resource.Declares request)
    (hdel : p.resource.deletionRequested = false)
    (fulfilled : p.resource.status.Fulfils request) (h : p.run.Walk t r)
    (hs : .saved s ∈ t) : s.Fulfils request := by
  obtain ⟨id, hid⟩ := Option.isSome_iff_exists.mp fulfilled.identified
  refine ⟨?_, fun gives => ?_⟩
  · rw [identity_of_saved hid h hs]
    rfl
  · rcases completed_cases hdel h hs with hsame | ⟨other, hother, hcompleted, -⟩
    · exact hsame.trans (fulfilled.completed gives)
    · rw [hcompleted, Option.some.inj (hother.symm.trans declares.requested)]

end Pass

/-! ## Runs -/

/-- The passes of a run whose spec asks for a request and stays as it is. -/
def Asks (turns : List Turn) (request : PdbRequest) : Prop :=
  ∀ turn ∈ turns, turn.pass.resource.Declares request
    ∧ turn.pass.resource.deletionRequested = false

/-- A request that is fulfilled stays so. -/
theorem fulfils_of_reaches {s₀ s : Status} {turns : List Turn}
    (hrun : Reaches s₀ turns s) (asks : Asks turns request)
    (fulfilled : s₀.Fulfils request) : s.Fulfils request := by
  refine (hrun.invariant (P := fun s => s.Fulfils request) fulfilled
    fun turn hturn hbegin s hs => ?_).1
  obtain ⟨declares, hdel⟩ := asks turn hturn
  exact Pass.fulfils_of_saved declares hdel hbegin turn.walk hs

/-- **An action that was accepted is final.** In a run over a pluggable database
whose spec stays as it is, once the remote has accepted the declared action,
whichever it is, and the statuses of that pass were stored, no later pass sends
any action, whatever the remote and the store answer to it. -/
theorem accepted_action_is_final {s₀ s : Status} {before after : List Turn}
    {turn : Turn} (hrun : Reaches s₀ (before ++ turn :: after) s)
    (asks : Asks (turn :: after) request) (taken : request.TakenIn turn.trace)
    (stored : Pass.AllStored turn.trace) :
    ∀ later ∈ after, later.pass.actionsSent later.trace = [] := by
  intro later hlater
  obtain ⟨xs, ys, rfl⟩ := List.append_of_mem hlater
  obtain ⟨s₁, -, hfrom⟩ := hrun.split
  obtain ⟨s₂, hxs, hys⟩ := hfrom.tail.split
  obtain ⟨declares, hdel⟩ := asks turn (List.mem_cons_self ..)
  have haccepted : turn.stored.Fulfils request :=
    Pass.fulfils_of_taken declares hdel turn.walk taken stored
  have hbegin : s₂.Fulfils request :=
    fulfils_of_reaches hxs
      (fun x hx => asks x (List.mem_cons_of_mem _ (List.mem_append_left _ hx)))
      haccepted
  rw [← hys.head] at hbegin
  obtain ⟨declares', hdel'⟩ := asks later (List.mem_cons_of_mem _ hlater)
  exact Pass.actionsSent_of_fulfilled declares' hdel' hbegin later.walk

/-- A pluggable database that is open is unplugged, and the store takes that. -/
theorem pdbRemoval_unplugs :
    (Pass.pdbSpec .unplug).request.TakenIn (Pass.pdbRemoval .unplug).trace
      ∧ Pass.AllStored (Pass.pdbRemoval .unplug).trace := by
  obtain ⟨marked, removed, found, htrace⟩ : ∃ marked removed found,
    (Pass.pdbRemoval .unplug).trace
      = [.remote (.get "pdb1") (.answered found), .saved marked,
        .remote (.unplugPdb (Pass.pdbSpec .unplug).request) (.answered ()),
        .saved removed] := ⟨_, _, _, rfl⟩
  rw [htrace]
  refine ⟨⟨none, none, (), ?_⟩, fun s e => by simp⟩
  exact List.mem_cons_of_mem _ (List.mem_cons_of_mem _ (List.mem_cons_self ..))

theorem pdbFollowing_asks :
    Asks [Pass.pdbRemoval .unplug, Pass.pdbFollowing .unplug .unplug]
      (Pass.pdbSpec .unplug).request := by
  intro turn hturn
  simp only [List.mem_cons, List.not_mem_nil, or_false] at hturn
  rcases hturn with rfl
    | rfl <;> exact ⟨ManagedResource.declares_ofPluggable _, rfl⟩

/-- After a pluggable database was unplugged, the next pass does not unplug it
again. -/
theorem unplugged_once :
    (Pass.pdbFollowing .unplug .unplug).pass.actionsSent
      (Pass.pdbFollowing .unplug .unplug).trace = [] := by
  have hrun : Reaches {}
    ([Pass.pdbBinding .unplug]
      ++ Pass.pdbRemoval .unplug :: [Pass.pdbFollowing .unplug .unplug])
        (Pass.pdbFollowing .unplug .unplug).stored :=
          .cons rfl (.cons rfl (.cons rfl .start))
  obtain ⟨taken, stored⟩ := pdbRemoval_unplugs
  exact accepted_action_is_final hrun pdbFollowing_asks taken stored _
    (List.mem_singleton_self _)

end DatabaseOperator
