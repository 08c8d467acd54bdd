import DroneControl.Proofs.Run.Calls

/-!
# What a relation between worlds heeds

A relation between worlds looks into some parts of them, and at occurrences of some kinds, and takes no
notice of the rest.  Once it is said which, whatever the library does elsewhere keeps the relation, and
only what does touch those parts has to be looked at.
-/

set_option synthInstance.maxSize 2048

namespace DroneControl

variable {σ : Type}

/-- The parts of a world that a relation may look into. -/
inductive Part where
  | history
  | loop
  | pipes
  | connections
  | interfaces
  | proxies
  | backends
  | uplinks
  | registries
  | discoveries
  | controllers
  deriving DecidableEq

/-- The part is the same in both worlds. -/
def World.Same (w w' : World σ) : Part → Prop
  | .history => w'.history = w.history
  | .loop => w'.loop = w.loop
  | .pipes => w'.pipes = w.pipes
  | .connections => w'.connections = w.connections
  | .interfaces => w'.interfaces = w.interfaces
  | .proxies => w'.proxies = w.proxies
  | .backends => w'.backends = w.backends
  | .uplinks => w'.uplinks = w.uplinks
  | .registries => w'.registries = w.registries
  | .discoveries => w'.discoveries = w.discoveries
  | .controllers => w'.controllers = w.controllers

def Part.ofKept : List Part := [.interfaces, .backends, .registries, .discoveries, .controllers]

structure Scope where
  parts : List Part
  topics : List Topic

abbrev Scope.Lacks (scope : Scope) (parts : List Part) : Prop := ∀ part ∈ parts, part ∉ scope.parts

abbrev Scope.Ignores (scope : Scope) (topics : List Topic) : Prop :=
  ∀ topic ∈ topics, topic ∉ scope.topics

/-- The relation holds if the parts of its scope are the same, and after any occurrence that is about
nothing in its scope. -/
class Heeds (R : World σ → World σ → Prop) (scope : outParam Scope) : Prop where
  trans : ∀ {w₁ w₂ w₃}, R w₁ w₂ → R w₂ w₃ → R w₁ w₃
  aside : ∀ {w w'}, (∀ part ∈ scope.parts, w.Same w' part) → R w w'
  mark : ∀ (w) (o : Occurrence), o.topic ∉ scope.topics → R w (w.mark o)

namespace Heeds

variable {R : World σ → World σ → Prop} {scope : Scope}

theorem of_silent (trans : ∀ {w₁ w₂ w₃}, R w₁ w₂ → R w₂ w₃ → R w₁ w₃)
    (aside : ∀ {w w'}, (∀ part ∈ scope.parts, w.Same w' part) → R w w')
    (silent : .history ∉ scope.parts := by decide) : Heeds R scope where
  trans := trans
  aside := aside
  mark _ _ _ := aside fun part among => by
    cases part <;> first | rfl | exact absurd among silent

variable [heeds : Heeds R scope]

instance closed : Closed (Keeps R) :=
  Keeps.closed (fun _ => heeds.aside fun part _ => by cases part <;> rfl) heeds.trans

theorem beside {w w' : World σ} {part : Part} (out : part ∉ scope.parts)
    (rest : ∀ part', part' ≠ part → w.Same w' part') : R w w' :=
  heeds.aside fun part' among => rest part' fun same => out (same ▸ among)

section Parts

variable (w : World σ)

theorem of_loop (out : .loop ∉ scope.parts) (loop : Loop) : R w { w with loop } :=
  beside out fun part _ => by cases part <;> first | rfl | contradiction

theorem of_pipes (out : .pipes ∉ scope.parts) (pipes : Table .pipe Pipe) : R w { w with pipes } :=
  beside out fun part _ => by cases part <;> first | rfl | contradiction

theorem of_connections (out : .connections ∉ scope.parts)
    (connections : Table .connection Connection) : R w { w with connections } :=
  beside out fun part _ => by cases part <;> first | rfl | contradiction

theorem of_interfaces (out : .interfaces ∉ scope.parts)
    (interfaces : Table .commandInterface Interface) : R w { w with interfaces } :=
  beside out fun part _ => by cases part <;> first | rfl | contradiction

theorem of_proxies (out : .proxies ∉ scope.parts) (proxies : Table .proxy Proxy) :
    R w { w with proxies } :=
  beside out fun part _ => by cases part <;> first | rfl | contradiction

theorem of_backends (out : .backends ∉ scope.parts) (backends : Table .backend Backend) :
    R w { w with backends } :=
  beside out fun part _ => by cases part <;> first | rfl | contradiction

theorem of_uplinks (out : .uplinks ∉ scope.parts) (uplinks : Table .uplink Uplink) :
    R w { w with uplinks } :=
  beside out fun part _ => by cases part <;> first | rfl | contradiction

theorem of_registries (out : .registries ∉ scope.parts) (registries : Table .registry Registry) :
    R w { w with registries } :=
  beside out fun part _ => by cases part <;> first | rfl | contradiction

theorem of_discoveries (out : .discoveries ∉ scope.parts)
    (discoveries : Table .discovery Discovery) : R w { w with discoveries } :=
  beside out fun part _ => by cases part <;> first | rfl | contradiction

theorem of_controllers (out : .controllers ∉ scope.parts)
    (controllers : Table .controller Controller) : R w { w with controllers } :=
  beside out fun part _ => by cases part <;> first | rfl | contradiction

theorem of_share (out : scope.Lacks Part.ofKept) (f : Nat → Nat) (k : Kept) :
    R w (w.reshare f k) := by
  refine heeds.aside fun part among => ?_
  have other : part ∉ Part.ofKept := fun kept => out part kept among
  cases k <;> cases part <;> first | rfl | exact absurd (by decide) other

theorem of_erase (out : scope.Lacks Part.ofKept) (k : Kept) :
    R w (w.erase k) := by
  refine heeds.aside fun part among => ?_
  have other : part ∉ Part.ofKept := fun kept => out part kept among
  cases k <;> cases part <;> first | rfl | exact absurd (by decide) other

theorem of_discarded (out : .connections ∉ scope.parts) (quiet : .discard ∉ scope.topics)
    (c : ConnectionId) : R w (Connection.discarded w c) := by
  unfold Connection.discarded
  split
  · exact heeds.trans (of_connections w out _) (heeds.mark _ _ quiet)
  · exact heeds.aside fun part _ => by cases part <;> rfl

end Parts

/-! ## The classes of properties -/

theorem footing_of_registry
    (registry : ∀ w r f, (∀ x : Registry, x.GoesTo (f x)) → R w (w.updateRegistry r f))
    (out : scope.Lacks [.pipes, .proxies, .uplinks] := by decide) :
    Footing (Keeps R) where
  think _ _ := heeds.aside fun part _ => by cases part <;> rfl
  traceCells _ _ := heeds.aside fun part _ => by cases part <;> rfl
  streams _ _ := heeds.aside fun part _ => by cases part <;> rfl
  createPipe _ w := of_pipes w (out _ (by decide)) _
  pipe _ _ _ w := of_pipes w (out _ (by decide)) _
  createProxy _ _ _ _ w := of_proxies w (out _ (by decide)) _
  closeProxy _ w := of_proxies w (out _ (by decide)) _
  addUplink _ w := of_uplinks w (out _ (by decide)) _
  uplink _ _ _ w := of_uplinks w (out _ (by decide)) _
  registry r f goes w := registry w r f goes

theorem footing (out : scope.Lacks [.registries, .pipes, .proxies, .uplinks] := by decide) :
    Footing (Keeps R) :=
  footing_of_registry (fun w _ _ _ => of_registries w (out _ (by decide)) _)
    fun part among => out part (List.mem_cons_of_mem _ among)

theorem base_of_kept [Footing (Keeps R)] (share : ∀ w f k, R w (w.reshare f k))
    (erase : ∀ w k, R w (w.erase k)) (out : .loop ∉ scope.parts := by decide) :
    Base (Keeps R) where
  share f k w := share w f k
  retire k w := heeds.trans (of_loop w out _) (erase (w.hush k) k)
  cancelCall _ w := of_loop w out _

theorem base [Footing (Keeps R)] (out : scope.Lacks (.loop :: Part.ofKept) := by decide) :
    Base (Keeps R) :=
  base_of_kept (of_share · fun part among => out part (List.mem_cons_of_mem _ among))
    (of_erase · fun part among => out part (List.mem_cons_of_mem _ among))
    (out _ List.mem_cons_self)

theorem overlooksProxies (out : .proxies ∉ scope.parts := by decide) :
    OverlooksProxies (Keeps R) where
  proxy _ _ w := of_proxies w out _

theorem overlooksBackends (out : .backends ∉ scope.parts := by decide) :
    OverlooksBackends (Keeps R) where
  addBackend _ w := of_backends w out _
  backend _ _ _ w := of_backends w out _

theorem overlooksSources (out : .discoveries ∉ scope.parts := by decide) :
    OverlooksSources (Keeps R) where
  discoveries _ w := of_discoveries w out _

theorem overlooksDiscoveries (out : .discoveries ∉ scope.parts := by decide)
    (quiet : .source ∉ scope.topics := by decide) : OverlooksDiscoveries (Keeps R) where
  toOverlooksSources := overlooksSources out
  markSource o about w := heeds.mark w o (about ▸ quiet)

theorem overlooksTimers (out : scope.Lacks [.controllers, .loop] := by decide)
    (quiet : .control ∉ scope.topics := by decide) : OverlooksTimers (Keeps R) where
  controller _ _ _ w := of_controllers w (out _ (by decide)) _
  schedule _ _ _ w := of_loop w (out _ (by decide)) _
  schedulePeriodic _ _ _ w := of_loop w (out _ (by decide)) _
  defer _ _ w := of_loop w (out _ (by decide)) _
  cancelTimer _ w := of_loop w (out _ (by decide)) _
  markControl o about w := heeds.mark w o (about ▸ quiet)

theorem ground [Base (Keeps R)]
    (out : scope.Lacks [.backends, .discoveries, .controllers, .loop] := by decide)
    (quiet : .source ∉ scope.topics ∧ .control ∉ scope.topics := by decide) :
    Ground (Keeps R) where
  toOverlooksBackends := overlooksBackends (out _ (by decide))
  toOverlooksDiscoveries := overlooksDiscoveries (out _ (by decide)) quiet.1
  toOverlooksTimers := overlooksTimers
    (fun _ among => out _ (List.mem_cons_of_mem _ (List.mem_cons_of_mem _ among))) quiet.2

theorem overlooks (i : InterfaceId) (out : scope.Lacks [.interfaces, .loop] := by decide)
    (quiet : .traffic ∉ scope.topics := by decide) : Overlooks (Keeps R) i where
  row _ _ w := of_interfaces w (out _ (by decide)) _
  retry _ w := of_loop w (out _ (by decide)) _
  cancel _ w := of_loop w (out _ (by decide)) _
  mark o about w := heeds.mark w o (Occurrence.topic_of_concerns about ▸ quiet)

theorem interfaceLives [Base (Keeps R)] [∀ i, InterfaceSteps (Keeps R) i]
    (out : .interfaces ∉ scope.parts := by decide) : InterfaceLives (Keeps R) :=
  Interface.lives_of_steps fun _ _ _ _ w => of_interfaces w out _

theorem overlooksEntries (out : .registries ∉ scope.parts := by decide)
    (quiet : scope.Ignores [.registry, .device, .command] := by decide) :
    OverlooksEntries (Keeps R) where
  registries _ w := of_registries w out _
  markDevice o about w := heeds.mark w o (quiet _ about)

theorem overlooksRegistries (out : .registries ∉ scope.parts := by decide)
    (quiet : scope.Ignores ([.registry, .device, .command] ++ [.hearing, .notice]) := by decide) :
    OverlooksRegistries (Keeps R) where
  toOverlooksEntries :=
    overlooksEntries out fun topic among => quiet topic (List.mem_append_left _ among)
  markHearing o about w := heeds.mark w o (quiet _ (List.mem_append_right _ about))

theorem overlooksDevices (out : scope.Lacks [.registries, .controllers] := by decide)
    (quiet : scope.Ignores ([.registry, .device, .command] ++ [.hearing, .notice]) := by decide) :
    OverlooksDevices (Keeps R) where
  toOverlooksRegistries := overlooksRegistries (out _ (by decide)) quiet
  controllers _ w := of_controllers w (out _ (by decide)) _

theorem overlooksLoop (out : .loop ∉ scope.parts := by decide)
    (quiet : .control ∉ scope.topics := by decide) : OverlooksLoop (Keeps R) where
  change _ w := of_loop w out _
  beats _ w := heeds.mark w _ quiet

theorem commandCalls [Base (Keeps R)] {env : Env σ} [Upheld (Keeps R) env] [InterfaceCalls (Keeps R) env]
    (quiet : .command ∉ scope.topics := by decide) : CommandCalls (Keeps R) env where
  command _ := Controller.send_holds ⟨fun w => heeds.mark w _ quiet⟩

theorem overlooksConnection (c : ConnectionId) (out : .connections ∉ scope.parts := by decide)
    (quiet : .connection ∉ scope.topics ∧ .discard ∉ scope.topics := by decide) :
    OverlooksConnection (Keeps R) c where
  update _ _ w := of_connections w out _
  told _ w := heeds.mark w _ quiet.1
  opening _ w := heeds.mark w _ quiet.1
  opened w := heeds.mark w _ quiet.1
  discarded w := of_discarded w out quiet.2 c

theorem connectionLives [Base (Keeps R)] [∀ c, OverlooksState (Keeps R) c]
    [∀ c, Untracks (Keeps R) c] (out : .connections ∉ scope.parts := by decide) :
    ConnectionLives (Keeps R) :=
  Connection.lives_of_overlooks fun _ w => of_connections w out _

end Heeds

class MindsNotices (R : World σ → World σ → Prop) : Prop where
  trans : ∀ {w₁ w₂ w₃}, R w₁ w₂ → R w₂ w₃ → R w₁ w₃
  aside : ∀ {w w'}, w'.history = w.history → R w w'
  mark : ∀ (w) (o : Occurrence), o.topic ≠ .notice → R w (w.mark o)

namespace MindsNotices

variable {R : World σ → World σ → Prop} [minds : MindsNotices R]

instance heeds : Heeds R ⟨[.history], [.notice]⟩ where
  trans := minds.trans
  aside same := minds.aside (same .history (by decide))
  mark w o other := minds.mark w o (by simpa using other)

instance footing : Footing (Keeps R) := Heeds.footing

instance base : Base (Keeps R) := Heeds.base

instance ground : Ground (Keeps R) := Heeds.ground

instance overlooksProxies : OverlooksProxies (Keeps R) := Heeds.overlooksProxies

instance overlooks (i : InterfaceId) : Overlooks (Keeps R) i := Heeds.overlooks i

instance interfaceLives : InterfaceLives (Keeps R) := Heeds.interfaceLives

instance overlooksEntries : OverlooksEntries (Keeps R) := Heeds.overlooksEntries

instance hears (c : ConnectionId) (event : ConnectionEvent) : Hears (Keeps R) c event where
  heeded _ _ _ _ := ⟨fun w => minds.mark w _ nofun⟩
  ignored _ _ := ⟨fun w => minds.mark w _ nofun⟩

instance overlooksLoop : OverlooksLoop (Keeps R) := Heeds.overlooksLoop

instance overlooksConnection (c : ConnectionId) : OverlooksConnection (Keeps R) c :=
  Heeds.overlooksConnection c

instance connectionLives : ConnectionLives (Keeps R) := Heeds.connectionLives

instance connectionNotes : ConnectionNotes (Keeps R) := Connection.notes_of_overlooks

instance registryLives : RegistryLives (Keeps R) :=
  Registry.lives_of_controllers fun _ _ _ _ _ => minds.aside rfl

instance alone : Alone (Keeps R) where

theorem together {env : Env σ} [Upheld (Keeps R) env] [EntryCalls (Keeps R) env] :
    Together (Keeps R) env := by
  have : ConnectionCalls (Keeps R) env := Connection.calls_of_tells
  have : GivesUp (Keeps R) env := ⟨fun _ => Connection.giveUp_overlooked⟩
  have : InterfaceCalls (Keeps R) env := Interface.calls_of_steps
  have : InterfaceRetries (Keeps R) env := Interface.retries_of_steps
  have : RegistryCalls (Keeps R) env := Registry.calls_of_overlooks
  have : LoopCalls (Keeps R) env := Loop.calls_of_steps
  exact {}

end MindsNotices

def Recalls (w w' : World σ) : Prop := w.history <:+ w'.history

instance Recalls.minds : MindsNotices (σ := σ) Recalls where
  trans := List.IsSuffix.trans
  aside history := ⟨[], by rw [history, List.nil_append]⟩
  mark _ _ _ := List.suffix_cons _ _

instance Recalls.notices (c : ConnectionId) (event : DeviceEvent) :
    Notices (Keeps (σ := σ) Recalls) c event where
  noticed _ _ := ⟨fun _ => List.suffix_cons _ _⟩

theorem Hosted.recalls {env : Env σ} (hosted : Hosted env) : Together (Keeps Recalls) env := by
  refine hosted.together fun env _ _ => ?_
  have : EntryCalls (Keeps (σ := σ) Recalls) env := Entry.calls_of_hears
  exact MindsNotices.together

end DroneControl
