import ReactiveResource.Proofs.Resource.Warrant

/-!
# Fetches that wait for the page lock

Fetches of a paginated resource stand in one line, behind a holder of the lock that may have been
fenced off long ago. A cancellation, an update that is accepted and the end of the resource raise
the epoch; a fetch that reaches the front of the line compares the epoch with that of the moment at
which it began to wait. So each of them is judged by what has happened during its own wait, however
the operations, the replies and the moves of the others interleave.

* `LiveResource.displaces`, `LiveResource.displacements`: what drops the fetches that wait, counted
  by the epoch (`epoch_after`);
* `Orderly.queued_act`, `Orderly.wait`: a fetch that waits does nothing until it reaches the front;
* `LiveResource.Fate`, `fate_of_queued_fetch`: what becomes of every fetch that begins to wait.
-/

namespace ReactiveResource

namespace LiveResource

variable {r : LiveResource} {m : Moment} {id : Nat}

/-! ### Displacements -/

/-- The action drops the fetches that wait for the page lock: it is a cancellation, an update that
is accepted, or the end of the resource. -/
def displaces (r : LiveResource) : Action → Bool
  | .cancel | .retire => true
  | .update config => (r.resource.update config).toOption.isSome
  | _ => false

/-- The actions of a run that drop the fetches which wait at that time. -/
def displacements (r : LiveResource) (actions : List Action) : List Action :=
  along (fun r a => if r.displaces a then [a] else []) r actions

/-- What displaces raises the epoch, and nothing else does; nothing else retires the resource. -/
theorem Orderly.epoch_act (orderly : r.Orderly) (a : Action) :
    (r.act a).1.resource.epoch = r.resource.epoch + (if r.displaces a then 1 else 0) ∧
      (r.displaces a = false → (r.act a).1.resource.retired = r.resource.retired) := by
  cases a with
  | advance m id signal =>
    have move : r.Move m id signal (r.act (.advance m id signal)).1 _ :=
      advance_move orderly.fence_le signal
    exact ⟨move.epoch, fun _ => move.keeps.2⟩
  | update config =>
    cases updated : r.resource.update config with
    | error e =>
      simp only [LiveResource.act, LiveResource.update, displaces, updated]
      exact ⟨rfl, fun _ => rfl⟩
    | ok resource =>
      obtain ⟨-, -, -, epoch, -, -, retired, -⟩ := Resource.update_ok updated
      simp only [LiveResource.act, LiveResource.update, displaces, updated]
      exact ⟨epoch, fun _ => retired⟩
  | listen kind once listener => cases once <;> exact ⟨rfl, fun _ => rfl⟩
  | spawn | reset => exact ⟨rfl, fun _ => rfl⟩
  | cancel | retire =>
    refine ⟨rfl, fun kept => ?_⟩
    cases kept

/-- **The epoch counts the displacements**, and without them the resource is not retired. -/
theorem Orderly.epoch_after (orderly : r.Orderly) (actions : List Action) :
    (r.after actions).resource.epoch = r.resource.epoch + (r.displacements actions).length ∧
      (r.displacements actions = [] →
        (r.after actions).resource.retired = r.resource.retired) := by
  induction actions generalizing r with
  | nil => exact ⟨rfl, fun _ => rfl⟩
  | cons a rest ih =>
    obtain ⟨epoch, retired⟩ := orderly.epoch_act a
    obtain ⟨epoch', retired'⟩ := ih (orderly.act a)
    have split : r.displacements (a :: rest)
        = (if r.displaces a then [a] else []) ++ (r.act a).1.displacements rest := rfl
    rw [after_cons, split]
    cases displaces : r.displaces a with
    | true =>
      rw [displaces, if_pos rfl] at epoch
      refine ⟨?_, nofun⟩
      rw [epoch', epoch, if_pos rfl, List.length_append, List.length_singleton]
      omega
    | false =>
      rw [displaces] at epoch
      refine ⟨?_, fun none => (retired' none).trans (retired displaces)⟩
      rw [epoch', epoch]
      rfl

/-! ### What an attempt does by itself -/

/-- What comes of an action that is a move of the attempt. -/
def doings (id : Nat) (r : LiveResource) : Action → List Effect
  | .advance m j signal => if j = id then (r.advance m j signal).2 else []
  | _ => []

/-- No move that the attempt makes in a run changes a field of the resource. -/
def Untouched (id : Nat) (r : LiveResource) : List Action → Prop
  | [] => True
  | a :: rest =>
    (∀ m signal, a = .advance m id signal → (r.act a).1.resource = r.resource) ∧
      Untouched id (r.act a).1 rest

theorem untouched_append (first second : List Action) :
    Untouched id r (first ++ second) ↔
      Untouched id r first ∧ Untouched id (r.after first) second := by
  induction first generalizing r with
  | nil => simp [Untouched]
  | cons a rest ih => simp [Untouched, ih, and_assoc]

/-- An attempt that has come to its end does nothing any more. -/
theorem Orderly.rests (orderly : r.Orderly) {ending : Ending}
    (ended : r.phase? id = some (.finished ending)) (actions : List Action) :
    along (doings id) r actions = [] ∧ Untouched id r actions := by
  induction actions generalizing r with
  | nil => exact ⟨rfl, trivial⟩
  | cons a rest ih =>
    obtain ⟨quiet, untouched⟩ := ih (orderly.act a) (orderly.finished_act ended a)
    have still : doings id r a = [] := by
      cases a with
      | advance m j signal =>
        rw [doings]
        split
        · next same => rw [same, advance_of_finished ended]
        · rfl
      | _ => rfl
    refine ⟨by rw [along, still, quiet]; rfl, ?_, untouched⟩
    rintro m signal rfl
    rw [LiveResource.act, advance_of_finished ended]

/-! ### The wait -/

/-- **What one action makes of a fetch that waits.** It has its turn with the lock, or it goes on
waiting and does nothing. -/
theorem Orderly.queued_act (orderly : r.Orderly) {e : Nat}
    (queued : r.phase? id = some (.queued e)) (a : Action) :
    (∃ m, a = .advance m id .go ∧ r.pages.holder = some id) ∨
      (r.act a).1.phase? id = some (.queued e) ∧ doings id r a = [] ∧
        ∀ m signal, a = .advance m id signal → (r.act a).1.resource = r.resource := by
  by_cases own : ∃ m signal, a = .advance m id signal
  · obtain ⟨m, signal, rfl⟩ := own
    by_cases turn : signal = .go ∧ r.pages.holder = some id
    · obtain ⟨rfl, holder⟩ := turn
      exact .inl ⟨m, rfl, holder⟩
    · have idle : ¬ r.Awaits id signal := by
        cases signal <;> simp_all [Awaits]
      have still := advance_of_not_awaits idle m
      refine .inr ⟨?_, ?_, fun _ _ _ => ?_⟩
      · rw [LiveResource.act, still, queued]
      · rw [doings, if_pos rfl, still]
      · rw [LiveResource.act, still]
  · refine .inr ⟨?_, ?_, fun m signal same => absurd ⟨m, signal, same⟩ own⟩
    · rcases act_cases r a orderly.fence_le with external | ⟨m, j, signal, rfl, move⟩
      · exact phase?_act_external external queued
      · rw [move.phase?_of_ne (fun same => own ⟨m, signal, by rw [same]⟩), queued]
    · cases a with
      | advance m j signal =>
        rw [doings, if_neg]
        rintro rfl
        exact own ⟨m, signal, rfl⟩
      | _ => rfl

/-- **What a run makes of a fetch that waits.** It waits all along and does nothing, or there is the
moment at which it has its turn with the lock, and it has waited and done nothing until then. -/
theorem Orderly.wait (orderly : r.Orderly) {e : Nat} (queued : r.phase? id = some (.queued e))
    (actions : List Action) :
    ((r.after actions).phase? id = some (.queued e) ∧ along (doings id) r actions = [] ∧
        Untouched id r actions) ∨
      ∃ wait m rest, actions = wait ++ .advance m id .go :: rest ∧
        (r.after wait).phase? id = some (.queued e) ∧
        (r.after wait).pages.holder = some id ∧ along (doings id) r wait = [] ∧
        Untouched id r wait := by
  induction actions generalizing r with
  | nil => exact .inl ⟨queued, rfl, trivial⟩
  | cons a rest ih =>
    rcases orderly.queued_act queued a with ⟨m, rfl, holder⟩ | ⟨waits, quiet, untouched⟩
    · exact .inr ⟨[], m, rest, rfl, queued, holder, rfl, trivial⟩
    · rcases ih (orderly.act a) waits with ⟨later, quiet', untouched'⟩ |
        ⟨wait, m, rest', split, later, holder, quiet', untouched'⟩
      · exact .inl ⟨later, by rw [along, quiet, quiet']; rfl, untouched, untouched'⟩
      · exact .inr ⟨a :: wait, m, rest', by rw [split]; rfl, later, holder,
          by rw [along, quiet, quiet']; rfl, untouched, untouched'⟩

/-! ### The end of the wait -/

/-- The attempt is dropped when it reaches the front: it comes to its end and hands the lock on to
the next one who waits, who is woken. Nothing else comes of it. -/
structure Drops (r : LiveResource) (m : Moment) (id : Nat) : Prop where
  resource : (r.act (.advance m id .go)).1.resource = r.resource
  ended : (r.act (.advance m id .go)).1.phase? id = some (.finished .displaced)
  others : ∀ j ≠ id, (r.act (.advance m id .go)).1.phase? j = r.phase? j
  pages : (r.act (.advance m id .go)).1.pages
    = { holder := r.pages.waiting.head?, waiting := r.pages.waiting.tail }
  effects : (r.act (.advance m id .go)).2
    = .log (.debug ("Queued fetch of " ++ r.label ++ " dropped after reconfiguration"))
      :: r.pages.waiting.head?.toList.map .wake

theorem drops_of_changed {e : Nat} (queued : r.phase? id = some (.queued e))
    (holder : r.pages.holder = some id)
    (changed : r.resource.retired = true ∨ r.resource.epoch ≠ e) : r.Drops m id := by
  have dropped : r.act (.advance m id .go)
      = r.finish id .displaced
        [.log (.debug ("Queued fetch of " ++ r.label ++ " dropped after reconfiguration"))] := by
    obtain ⟨⟨override, p⟩, attempt, rfl⟩ := Option.map_eq_some_iff.1 queued
    have late : (r.resource.retired || r.resource.epoch != e) = true := by simpa using changed
    simp [act, advance, attempt, holder, take, late]
  rw [finish_eq] at dropped
  refine ⟨?_, ?_, fun j other => ?_, ?_, ?_⟩ <;> rw [dropped]
  · rfl
  · exact phase?_setPhase_self queued _
  · exact phase?_setPhase_of_ne r other _
  · rw [pages_ended, PageLock.leave, if_pos holder]
  · rw [wakes, PageLock.heir?, if_pos holder]
    rfl

/-- Who takes a generation keeps it. -/
theorem Takes.generationOf?_after {a : Action} {g : Nat} (h : r.Takes a id g)
    (orderly : r.Orderly) (rest : List Action) :
    ((r.act a).1.after rest).generationOf? id = some g := by
  obtain ⟨⟨m, signal, rfl⟩, next, taken⟩ := h
  have move : r.Move m id signal (r.act (.advance m id signal)).1 _ :=
    advance_move orderly.fence_le signal
  refine (orderly.act _).generationOf?_after rest ?_
  rcases move.generations with ⟨same, -⟩ | ⟨-, -, generations⟩
  · omega
  · rw [generations, if_pos rfl, next]

/-! ### What becomes of a fetch that begins to wait -/

/-- What becomes of an attempt along a run that begins with its wait. -/
inductive Fate (r : LiveResource) (id : Nat) (actions : List Action) : Prop
  /-- It still waits, and has done nothing. -/
  | waits (phase : (r.after actions).phase? id = some (.queued r.resource.epoch))
      (quiet : along (doings id) r actions = []) (untouched : Untouched id r actions)
  /-- It is dropped when it reaches the front, because it was displaced during its wait. This is all
  that it ever does, and it changes no field. -/
  | dropped {wait rest : List Action} {m : Moment}
      (split : actions = wait ++ .advance m id .go :: rest)
      (waited : (r.after wait).phase? id = some (.queued r.resource.epoch))
      (front : (r.after wait).pages.holder = some id)
      (displaced : r.displacements wait ≠ [])
      (drops : (r.after wait).Drops m id)
      (all : along (doings id) r actions = ((r.after wait).act (.advance m id .go)).2)
      (untouched : Untouched id r actions)
      (ended : (r.after actions).phase? id = some (.finished .displaced))
  /-- It takes the next generation when it reaches the front, and keeps it, because nothing has
  displaced it during its wait. -/
  | served {wait rest : List Action} {m : Moment}
      (split : actions = wait ++ .advance m id .go :: rest)
      (waited : (r.after wait).phase? id = some (.queued r.resource.epoch))
      (front : (r.after wait).pages.holder = some id)
      (undisturbed : r.displacements wait = [])
      (quiet : along (doings id) r wait = [])
      (takes : (r.after wait).Takes (.advance m id .go) id
        ((r.after wait).resource.generation + 1))
      (keeps : (r.after actions).generationOf? id
        = some ((r.after wait).resource.generation + 1))

theorem Orderly.fate (orderly : r.Orderly) (alive : r.resource.retired = false)
    (queued : r.phase? id = some (.queued r.resource.epoch)) (actions : List Action) :
    r.Fate id actions := by
  rcases orderly.wait queued actions with
    ⟨waits, quiet, untouched⟩ | ⟨wait, m, rest, split, waited, front, quiet, untouched⟩
  · exact .waits waits quiet untouched
  have orderly' := orderly.after wait
  obtain ⟨epoch, retired⟩ := orderly.epoch_after wait
  have run : r.after actions = ((r.after wait).act (.advance m id .go)).1.after rest := by
    rw [split, after_append, after_cons]
  by_cases undisturbed : r.displacements wait = []
  · -- the epoch is that of the moment at which the wait began
    rw [undisturbed] at epoch
    have turn : (r.after wait).Turn m id (r.after wait) :=
      .next (by rw [waited, epoch]; rfl) front ((retired undisturbed).trans alive)
    have takes := turn.takes orderly'.fence_le
    refine .served split waited front undisturbed quiet takes ?_
    rw [run]
    exact takes.generationOf?_after orderly' rest
  · have raised : 0 < (r.displacements wait).length := List.length_pos_iff.2 undisturbed
    have drops : (r.after wait).Drops m id :=
      drops_of_changed waited front (.inr (by omega))
    have orderly'' := orderly'.act (.advance m id .go)
    obtain ⟨quiet', untouched'⟩ := orderly''.rests drops.ended rest
    have own : doings id (r.after wait) (.advance m id .go)
        = ((r.after wait).act (.advance m id .go)).2 := by rw [doings, if_pos rfl, LiveResource.act]
    refine .dropped split waited front undisturbed drops ?_ ?_ ?_
    · rw [split, along_append, along, quiet, quiet', own, List.nil_append, List.append_nil]
    · rw [split, untouched_append]
      exact ⟨untouched, fun _ _ _ => drops.resource, untouched'⟩
    · rw [run]
      exact orderly''.finished_after drops.ended rest

/-- In this moment the attempt, which has been started, begins to wait for the page lock. -/
structure Queues (r : LiveResource) (m : Moment) (id : Nat) : Prop where
  spawned : r.phase? id = some .spawned
  waits : ∃ e, (r.act (.advance m id .go)).1.phase? id = some (.queued e)

/-- It waits since the epoch of that moment, in which the resource is not retired. -/
theorem Queues.since (queues : r.Queues m id) (orderly : r.Orderly) :
    (r.act (.advance m id .go)).1.phase? id
        = some (.queued (r.act (.advance m id .go)).1.resource.epoch) ∧
      (r.act (.advance m id .go)).1.resource.retired = false := by
  obtain ⟨spawned, e, waits⟩ := queues
  have move : r.Move m id .go (r.act (.advance m id .go)).1 _ := advance_move orderly.fence_le .go
  have turned {r₁ : LiveResource} {resource : Resource} {p : Phase} (turn : r.Turn m id r₁)
      (phase : ({ r₁ with resource }.setPhase id p).phase? id = some (.queued e)) :
      p = .queued e := by
    rw [phase?_of_setPhase (turn.setPhase_attempts resource p) spawned, if_pos rfl] at phase
    exact Option.some.inj phase
  generalize (r.act (.advance m id .go)).1 = r', deeds _ = effects at move waits
  cases move with
  | still => cases spawned.symm.trans waits
  | leave phase =>
    rw [phase?_ended, phase?_setPhase_self phase] at waits
    cases waits
  | queue _ admits => exact ⟨phase?_setPhase_self spawned _, admits.alive⟩
  | refuse turn => cases turned turn waits
  | ask turn => cases turned turn waits
  | call turn => cases turned turn waits
  | apply comes => exact absurd comes (not_comes_go _ _ _ _)
  | discard comes => exact absurd comes (not_comes_go _ _ _ _)

/-- **The fate of a fetch that waits for the page lock** is settled by its own wait. If there is a
cancellation, an accepted update or the end of the resource in it, the fetch is dropped when it
reaches the front: it takes no generation, makes no call, runs no validator and no listener, changes
nothing, and hands the lock on. If there is none, it is never dropped and takes the next generation
when it gets the lock, whatever else happens. -/
theorem fate_of_queued_fetch (name : String) (config : Config) (before : List Action) (m : Moment)
    (id : Nat) (queues : ((fresh name config).after before).Queues m id) (since : List Action) :
    ((fresh name config).after (before ++ [.advance m id .go])).Fate id since := by
  have orderly := (orderly_fresh name config).after before
  obtain ⟨queued, alive⟩ := queues.since orderly
  rw [after_concat]
  exact (orderly.act _).fate alive queued since

/-- Two fetches wait behind a third one, one of them since before a cancellation. It makes no call,
and the other one takes the next generation. -/
theorem earlier_page_dropped :
    let m : Moment := { now := 0, isOpen := fun _ => true }
    let start := fresh "tickets" { method := "list", paginated := true }
    let begun : List Action := [.spawn none, .spawn none, .spawn none, .advance m 0 .go]
    let between : List Action := [.cancel, .reset]
    let rest : List Action :=
      [.advance m 0 (.reply (.ok (.arr []))), .advance m 1 .go, .advance m 2 .go]
    let run := begun ++ .advance m 1 .go :: between ++ .advance m 2 .go :: rest
    (start.after begun).Queues m 1 ∧
      (start.after (begun ++ [.advance m 1 .go])).Fate 1
        (between ++ .advance m 2 .go :: rest) ∧
      (start.after (begun ++ .advance m 1 .go :: between)).Queues m 2 ∧
      (start.after (begun ++ .advance m 1 .go :: between ++ [.advance m 2 .go])).Fate 2 rest ∧
      along calls start run = [0, 2] ∧
      (start.after run).generationOf? 1 = none ∧ (start.after run).generationOf? 2 = some 2 := by
  intro m start begun between rest run
  have first : (start.after begun).Queues m 1 := ⟨rfl, 0, rfl⟩
  have second : (start.after (begun ++ .advance m 1 .go :: between)).Queues m 2 := ⟨rfl, 1, rfl⟩
  exact ⟨first, fate_of_queued_fetch _ _ begun m 1 first _, second,
    fate_of_queued_fetch _ _ _ m 2 second rest, by decide +kernel, by decide +kernel,
    by decide +kernel⟩

end LiveResource

end ReactiveResource
