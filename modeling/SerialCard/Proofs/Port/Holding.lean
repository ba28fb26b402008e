import SerialCard.Proofs.Port.Access

/-!
# Ways to hold a channel

A port may hold its channel itself, behind a pointer that owns it, on loan, or behind several such
layers. Calls on the port make requests and nothing else, and requests come through every layer as
they are; so the calls go the same way however the channel is held (`Port.calls_held`). What the
layers decide is whether the end of the port reaches the channel: it does if each of them owns what
it holds (`Channel.close_held`), and otherwise the channel is there to be used by another port.

`Port.useUp` is the whole life of a port, calls and the closing after them, and
`holding_transparent` says what becomes of it for any layers.
-/

namespace SerialCard

open Channel

variable {σ : Type}

/-! ### Layers -/

namespace Channel

/-- Whether closing what is held closes the channel. -/
def Holding.owns : Holding → Bool
  | owned | boxed => true
  | endless | borrowed | dynamic => false

/-- The channel behind layers of holding, the outermost first. -/
def held (c : Channel σ) (layers : List Holding) : Channel σ :=
  layers.foldr Holding.wrap c

variable (c : Channel σ) (layers : List Holding)

/-- A request comes through every layer. -/
theorem control_held : (c.held layers).control = c.control := by
  induction layers with
  | nil => rfl
  | cons layer rest ih =>
    have hlayer : (layer.wrap (c.held rest)).control = (c.held rest).control := by
      cases layer <;> rfl
    exact hlayer.trans ih

/-- Closing comes through if every layer owns the channel. A layer that does not leaves nothing to
close for those around it. -/
theorem close_held :
    (c.held layers).close = if layers.all Holding.owns then c.close else pure (.ok ()) := by
  induction layers with
  | nil => rfl
  | cons layer rest ih =>
    have hlayer : (layer.wrap (c.held rest)).close =
        if layer.owns then (c.held rest).close else pure (.ok ()) := by
      cases layer <;> rfl
    rw [List.all_cons]
    refine hlayer.trans ?_
    cases layer.owns with
    | true => exact ih
    | false => rfl

end Channel

/-! ### Calls through the layers -/

namespace Port

/-- Ports whose channels answer alike do the same work, whatever closing the channels does. -/
theorem congruence_of_control {c c' : Channel σ} (h : c.control = c'.control) :
    (Port.mk c).Congruence (Port.mk c') fun _ work work' => work = work' where
  result a := rfl
  andThen hfirst hnext := by rw [hfirst, funext hnext]
  request q f := by
    funext s
    simp only [once, h]
  skipped name error := rfl
  applied written omitted := rfl

/-- Calls go the same way behind any layers. -/
theorem calls_held (c : Channel σ) (layers : List Holding) (cs : List Call) :
    Port.calls ⟨c.held layers⟩ cs = Port.calls ⟨c⟩ cs :=
  (congruence_of_control (c.control_held layers)).calls cs

/-- Makes calls on a port and closes it. -/
def useUp (p : Port σ) (cs : List Call) :
    Work σ (List (Except PortError Answer) × Except PortError Unit) := do
  let answers ← p.calls cs
  let closing ← p.close.run
  return (answers, closing)

/-- A port is closed in the state its calls have led to. -/
theorem useUp_apply (p : Port σ) (cs : List Call) (s : σ) :
    p.useUp cs s =
      let run := p.calls cs s
      let closing := p.channel.close run.state
      ⟨(run.result, closing.result.mapError .transport), closing.state,
        run.events ++ closing.events⟩ := by
  simp only [useUp, Work.bind_apply, Work.pure_apply, List.append_nil, p.close_run]

/-- The life of a port goes on after its first calls as that of a port made then. -/
theorem useUp_append (p : Port σ) (first second : List Call) (s : σ) :
    p.useUp (first ++ second) s =
      let earlier := p.calls first s
      let later := p.useUp second earlier.state
      ⟨(earlier.result ++ later.result.1, later.result.2), later.state,
        earlier.events ++ later.events⟩ := by
  simp only [useUp_apply, p.calls_append, List.append_assoc]

end Port

/-- **Holding a channel changes nothing but its end.** However many layers a channel is held behind,
whatever it answers and whatever its closing does, calls on a port over the layers have the results
of the calls on the channel itself, the same requests reach it, the same is logged, and it is left
in the same state. Closing the port then reaches the channel exactly once and has its result if
every layer owns it. Otherwise it succeeds and the channel does not notice, so that a port made on
it later, in whatever way it is held, goes on as if it had made the earlier calls itself. -/
theorem holding_transparent (c : Channel σ) (layers : List Holding) (calls : List Call) (s : σ) :
    let own := Port.calls ⟨c⟩ calls s
    let requests := own.requests.map Contact.request
    let port : Port (σ × List Contact) := ⟨c.recorded.held layers⟩
    let spent := port.useUp calls (s, [])
    port.calls calls (s, []) = ⟨own.result, (own.state, requests), own.events⟩ ∧
    if layers.all Holding.owns then
      let closing := c.close own.state
      spent = ⟨(own.result, closing.result.mapError .transport),
        (closing.state, requests ++ [.close]), own.events ++ closing.events⟩
    else
      spent = ⟨(own.result, .ok ()), (own.state, requests), own.events⟩ ∧
      ∀ (layers' : List Holding) (more : List Call),
        let next : Port (σ × List Contact) := ⟨c.recorded.held layers'⟩
        let later := next.useUp more spent.state
        next.useUp (calls ++ more) (s, []) =
          ⟨(own.result ++ later.result.1, later.result.2), later.state,
            own.events ++ later.events⟩ := by
  intro own requests port spent
  have hcalls (layers' : List Holding) : Port.calls ⟨c.recorded.held layers'⟩ calls (s, []) =
      ⟨own.result, (own.state, requests), own.events⟩ := by
    rw [Port.calls_held]
    exact c.congruence_recorded.calls calls s []
  have hspent : spent = _ := port.useUp_apply calls (s, [])
  rw [hcalls, c.recorded.close_held] at hspent
  refine ⟨hcalls layers, ?_⟩
  split
  · next howned =>
    rw [if_pos howned] at hspent
    exact hspent
  · next hlent =>
    -- nothing is closed, so there are no events of it either
    rw [if_neg hlent] at hspent
    have hleft : spent = ⟨(own.result, .ok ()), (own.state, requests), own.events⟩ :=
      hspent.trans (congrArg (Run.mk _ _) (List.append_nil _))
    have hstate : spent.state = (own.state, requests) := congrArg Run.state hleft
    refine ⟨hleft, fun layers' more => ?_⟩
    dsimp only
    rw [hstate, Port.useUp_append, hcalls]

/-- A card that cannot be closed, behind two owners: the failure comes through. -/
example :
    let e := TransportError.io "COM1" ⟨none, "close failed"⟩
    let desk : Desk := { closeFailure := some e }
    ((Port.mk (Desk.channel.held [.boxed, .boxed])).useUp [] desk).result =
      ([], .error (.transport e)) :=
  rfl

end SerialCard
