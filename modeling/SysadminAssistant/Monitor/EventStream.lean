import Mathlib.Data.List.Induction
import Mathlib.Tactic.Linarith
import SysadminAssistant.Python.Dict

namespace SysadminAssistant.Monitor.EventStream

open Python

/-! `sysadmin/monitor/sse.py`: events copied into one bounded queue for each client.  An event is
handed on as it is, and a client is known by its queue, which is made when it subscribes. -/

/-- A client's `asyncio.Queue`, what was taken out of it to be sent, and whether it is in `_queues`. -/
structure Client (α : Type*) where
  bound : Int
  queue : List α
  received : List α
  connected : Bool

namespace Client

variable {α β : Type*} (client : Client α)

/-- `queue.full()`; a bound that is not positive is none. -/
def full : Bool := 0 < client.bound ∧ client.bound ≤ client.queue.length

/-- `queue.put_nowait(event)`, whose `QueueFull` is caught. -/
def putNowait (event : α) : Client α :=
  if client.full then client else { client with queue := client.queue ++ [event] }

/-- A turn of `dispatch`. -/
def offer (event : α) : Client α :=
  if client.full then { client with queue := client.queue.tail }.putNowait event
  else client.putNowait event

/-- `queue.get()`, which waits where there is nothing. -/
def read : Client α :=
  match client.queue with
  | [] => client
  | event :: later => { client with queue := later, received := client.received ++ [event] }

def map (f : α → β) : Client β :=
  ⟨client.bound, client.queue.map f, client.received.map f, client.connected⟩

end Client

inductive Step (κ α : Type*) where
  | dispatch (event : α)
  | subscribe (client : κ) (maxQueue : Option Int)
  | disconnect (client : κ)
  | read (client : κ)

section

variable {κ α β : Type*} [DecidableEq κ]

def Step.map (f : α → β) : Step κ α → Step κ β
  | .dispatch event => .dispatch (f event)
  | .subscribe client maxQueue => .subscribe client maxQueue
  | .disconnect client => .disconnect client
  | .read client => .read client

variable (maxQueue : Int)

/-- `max_queue or self._max_queue`. -/
def queueBound (asked : Option Int) : Int := if asked.getD 0 = 0 then maxQueue else asked.getD 0

/-- Alter a client that is there. -/
def alter (clients : Dict κ (Client α)) (id : κ) (change : Client α → Client α) : Dict κ (Client α) :=
  match clients.get? id with
  | none => clients
  | some client => clients.set id (change client)

/-- One step of the broadcaster or of a stream. -/
def step (clients : Dict κ (Client α)) : Step κ α → Dict κ (Client α)
  | .dispatch event => clients.mapValues fun _ client => if client.connected then client.offer event
      else client
  | .subscribe id asked =>
    if (clients.get? id).isSome then clients else clients.set id ⟨queueBound maxQueue asked,
      [], [], true⟩
  | .disconnect id => alter clients id fun client => { client with connected := false }
  | .read id => alter clients id fun client => if client.connected then client.read else client

def run (steps : List (Step κ α)) : Dict κ (Client α) := steps.foldl (step maxQueue) .empty

/-! ## One client -/

/-- What a step is to one client. -/
def clientStep (id : κ) (client : Option (Client α)) : Step κ α → Option (Client α)
  | .dispatch event => client.map fun client => if client.connected then client.offer event else client
  | .subscribe other asked =>
    if other = id ∧ client.isNone then some ⟨queueBound maxQueue asked, [], [], true⟩ else client
  | .disconnect other => if other = id then client.map fun client =>
    { client with connected := false } else client
  | .read other => if other = id then client.map fun client => if client.connected then client.read
      else client else client

/-- Whether a step is the client's own, or a dispatch. -/
def concerns (id : κ) : Step κ α → Bool
  | .dispatch _ => true
  | .subscribe other _ | .disconnect other | .read other => other = id

/-- The client after a run. -/
def clientAfter (id : κ) (steps : List (Step κ α)) : Option (Client α) := (run maxQueue steps).get? id

/-- The event that a step dispatches to a client that is connected. -/
def sentBy (client : Option (Client α)) : Step κ α → List α
  | .dispatch event => if client.any Client.connected then [event] else []
  | _ => []

def sentFrom (id : κ) : Dict κ (Client α) → List (Step κ α) → List α
  | _, [] => []
  | clients, taken :: rest =>
    sentBy (clients.get? id) taken ++ sentFrom id (step maxQueue clients taken) rest

/-- The events dispatched while the client was subscribed. -/
def sent (id : κ) (steps : List (Step κ α)) : List α := sentFrom maxQueue id .empty steps

/-- Each event with its place in the run. -/
def number (steps : List (Step κ α)) : List (Step κ (Nat × α)) :=
  steps.zipIdx.map fun entry => entry.1.map (Prod.mk entry.2)

/-- What a client has of the events that were dispatched to it, each known by its place in the run. -/
structure Served (id : κ) (steps : List (Step κ α)) (client : Client (Nat × α)) : Prop where
  ordered : (client.received ++ client.queue).Sublist (sent maxQueue id (number steps))
  distinct : (sent maxQueue id (number steps)).Pairwise fun earlier later => earlier.1 < later.1
  missing : ∀ event ∈ sent maxQueue id (number steps), event ∉ client.received ++ client.queue →
    ∃ early before, early <+: steps ∧ clientAfter maxQueue id (number early) = some before ∧
      before.bound ≤ (sent maxQueue id (number early)).countP (fun later => event.1 < later.1) ∧
      ∀ read ∈ before.received, read.1 < event.1
  newest : ∀ last, (sent maxQueue id (number steps)).getLast? = some last →
    last ∈ client.received ++ client.queue

variable {maxQueue : Int} {id : κ} {steps : List (Step κ α)} {taken : Step κ α}

theorem get?_alter (clients : Dict κ (Client α)) (other : κ) (change : Client α → Client α) :
    (alter clients other change).get? id = if other = id then (clients.get? id).map change
      else clients.get? id := by
  rw [alter]
  by_cases same : other = id
  · subst same
    cases found : clients.get? other with
    | none => simp [found]
    | some client => simp
  · rw [if_neg same]
    split
    · rfl
    · rw [Dict.get?_set_other _ _ same]

theorem get?_step (clients : Dict κ (Client α)) (taken : Step κ α) :
    (step maxQueue clients taken).get? id = clientStep maxQueue id (clients.get? id) taken := by
  cases taken with
  | dispatch event => exact Dict.get?_mapValues _ _ _
  | subscribe other asked =>
    rw [step, clientStep]
    by_cases same : other = id
    · subst same
      cases found : clients.get? other with
      | none => simp
      | some client => simp [found]
    · simp only [same, false_and, if_false]
      split
      · rfl
      · rw [Dict.get?_set_other _ _ same]
  | disconnect other => exact get?_alter _ _ _
  | read other => exact get?_alter _ _ _

theorem clientAfter_snoc (maxQueue : Int) (id : κ) (steps : List (Step κ α)) (taken : Step κ α) :
    clientAfter maxQueue id (steps ++ [taken]) = clientStep maxQueue id
      (clientAfter maxQueue id steps) taken := by
  rw [clientAfter, run, List.foldl_append]
  exact get?_step _ _

theorem clientAfter_eq (maxQueue : Int) (id : κ) (steps : List (Step κ α)) :
    clientAfter maxQueue id steps = steps.foldl (clientStep maxQueue id) none := by
  induction steps using List.reverseRecOn with
  | nil => rfl
  | append_singleton steps taken ih => rw [clientAfter_snoc, List.foldl_append, ih]; rfl

theorem sent_snoc (maxQueue : Int) (id : κ) (steps : List (Step κ α)) (taken : Step κ α) :
    sent maxQueue id (steps ++ [taken]) =
      sent maxQueue id steps ++ sentBy (clientAfter maxQueue id steps) taken := by
  rw [sent, sent, clientAfter, run]
  generalize (Dict.empty : Dict κ (Client α)) = clients
  induction steps generalizing clients with
  | nil => simp [sentFrom]
  | cons first rest ih =>
    rw [List.cons_append, sentFrom, sentFrom, ih, List.foldl_cons, List.append_assoc]

omit [DecidableEq κ] in
theorem number_snoc (steps : List (Step κ α)) (taken : Step κ α) :
    number (steps ++ [taken]) = number steps ++ [taken.map (Prod.mk steps.length)] := by
  simp [number, List.zipIdx_append]

theorem clientStep_other (client : Option (Client α)) (other : concerns id taken = false) :
    clientStep maxQueue id client taken = client := by
  cases taken with
  | dispatch event => cases other
  | subscribe | disconnect | read =>
    simp only [concerns, decide_eq_false_iff_not] at other
    simp [clientStep, other]

theorem clientAfter_filter (maxQueue : Int) (id : κ) (steps : List (Step κ α)) :
    clientAfter maxQueue id (steps.filter (concerns id)) = clientAfter maxQueue id steps := by
  rw [clientAfter_eq, clientAfter_eq]
  generalize (none : Option (Client α)) = client
  induction steps generalizing client with
  | nil => rfl
  | cons taken rest ih =>
    rw [List.foldl_cons]
    cases mine : concerns id taken with
    | true => rw [List.filter_cons_of_pos mine, List.foldl_cons, ih]
    | false => rw [List.filter_cons_of_neg (by simp [mine]), ih, clientStep_other client mine]

/-! ## What a client has -/

/-- What is kept of a client from step to step, for events numbered below the next number. -/
structure Progress (sent : List (Nat × α)) (next : Nat) (client : Client (Nat × α)) : Prop where
  ordered : sent.Pairwise fun earlier later => earlier.1 < later.1
  below : ∀ event ∈ sent, event.1 < next
  fits : 0 < client.bound → client.queue.length ≤ client.bound
  split : ∃ past, sent = past ++ client.queue ∧ client.received.Sublist past
  newest : client.queue = [] → client.received.getLast? = sent.getLast?

omit [DecidableEq κ] in
theorem Progress.later {sent : List (Nat × α)} {next : Nat} {client : Client (Nat × α)}
    (progress : Progress sent next client) : Progress sent (next + 1) client :=
  { progress with below := fun event member => (progress.below event member).trans (Nat.lt_succ_self _) }

theorem offer_cases {client : Client α}
    (fits : 0 < client.bound → client.queue.length ≤ client.bound) (event : α) :
    (client.full = false ∧ client.offer event = { client with queue := client.queue ++ [event] }) ∨
      ∃ oldest later, client.queue = oldest :: later ∧ 0 < client.bound ∧
        client.bound = client.queue.length ∧
        client.offer event = { client with queue := later ++ [event] } := by
  cases full : client.full with
  | false => exact .inl ⟨rfl, by simp [Client.offer, Client.putNowait, full]⟩
  | true =>
    right
    have bounds := of_decide_eq_true full
    have exactly : client.bound = client.queue.length := le_antisymm bounds.2 (fits bounds.1)
    cases queue : client.queue with
    | nil =>
      rw [queue] at exactly
      simp only [List.length_nil, Nat.cast_zero] at exactly
      omega
    | cons oldest later =>
      have room : ({ client with queue := later } : Client α).full = false := by
        rw [queue] at exactly
        simp only [Client.full, decide_eq_false_iff_not, not_and, not_le, exactly, List.length_cons]
        omega
      refine ⟨oldest, later, rfl, bounds.1, queue ▸ exactly, ?_⟩
      simp only [Client.offer, full, if_true, Client.putNowait, queue, List.tail_cons, room,
        Bool.false_eq_true, if_false]

theorem Progress.offer {sent : List (Nat × α)} {next : Nat} {client : Client (Nat × α)}
    (progress : Progress sent next client) (event : α) :
    Progress (sent ++ [(next, event)]) (next + 1) (client.offer (next, event)) := by
  obtain ⟨past, split, received⟩ := progress.split
  have ordered : (sent ++ [(next, event)]).Pairwise fun earlier later => earlier.1 < later.1 := by
    refine List.pairwise_append.mpr ⟨progress.ordered, List.pairwise_singleton _ _,
      fun earlier member later last => ?_⟩
    rw [List.mem_singleton.mp last]
    exact progress.below earlier member
  have below : ∀ other ∈ sent ++ [(next, event)], other.1 < next + 1 := by
    intro other member
    rcases List.mem_append.mp member with before | last
    · exact (progress.below other before).trans (Nat.lt_succ_self _)
    · rw [List.mem_singleton.mp last]
      exact Nat.lt_succ_self _
  rcases offer_cases progress.fits (next, event) with ⟨room, same⟩
    | ⟨oldest, later, queue, positive, full, same⟩
  · rw [same]
    refine ⟨ordered, below, fun positive => ?_, ⟨past, by rw [split, List.append_assoc], received⟩,
      fun empty => ?_⟩
    · have notFull := of_decide_eq_false room
      change 0 < client.bound at positive
      simp only [List.length_append, List.length_singleton, Nat.cast_add, Nat.cast_one]
      omega
    · simp at empty
  · rw [same]
    refine ⟨ordered, below, fun _ => ?_, ⟨past ++ [oldest], ?_, ?_⟩, fun empty => ?_⟩
    · rw [full, queue]
      simp
    · rw [split, queue]
      simp
    · exact received.trans (List.sublist_append_left _ _)
    · simp at empty

theorem Progress.read {sent : List (Nat × α)} {next : Nat} {client : Client (Nat × α)}
    (progress : Progress sent next client) : Progress sent next client.read := by
  obtain ⟨past, split, received⟩ := progress.split
  rw [Client.read]
  cases queue : client.queue with
  | nil => exact progress
  | cons event later =>
    refine ⟨progress.ordered, progress.below, fun positive => ?_, ⟨past ++ [event], ?_, ?_⟩,
      fun empty => ?_⟩
    · have fits := progress.fits positive
      rw [queue] at fits
      simp only [List.length_cons, Nat.cast_add, Nat.cast_one] at fits ⊢
      omega
    · rw [split, queue]
      simp
    · exact received.append (List.Sublist.refl _)
    · simp only at empty
      rw [split, queue, empty]
      simp

theorem clientStep_cases {steps : List (Step κ (Nat × α))} {taken : Step κ α} {place : Nat}
    {client : Client (Nat × α)}
    (after : clientAfter maxQueue id (steps ++ [taken.map (Prod.mk place)]) = some client) :
    (clientAfter maxQueue id steps = none ∧ client.queue = [] ∧ client.received = [] ∧
      sent maxQueue id (steps ++ [taken.map (Prod.mk place)]) = sent maxQueue id steps) ∨
    ∃ before, clientAfter maxQueue id steps = some before ∧
      ((∃ event, client = before.offer (place, event) ∧
          sent maxQueue id (steps ++ [taken.map (Prod.mk place)]) = sent maxQueue id steps ++
            [(place, event)]) ∨
        (sent maxQueue id (steps ++ [taken.map (Prod.mk place)]) = sent maxQueue id steps ∧
          (client = before.read ∨ client.bound = before.bound ∧ client.queue = before.queue ∧
            client.received = before.received))) := by
  rw [clientAfter_snoc] at after
  rw [sent_snoc]
  cases found : clientAfter maxQueue id steps with
  | none =>
    rw [found] at after
    cases taken with
    | subscribe other asked =>
      simp only [Step.map, clientStep] at after
      split at after
      · cases after
        exact .inl ⟨rfl, rfl, rfl, by simp [sentBy, Step.map]⟩
      · cases after
    | dispatch event => cases after
    | disconnect other =>
      simp only [Step.map, clientStep, Option.map_none, ite_self, reduceCtorEq] at after
    | read other =>
      simp only [Step.map, clientStep, Option.map_none, ite_self, reduceCtorEq] at after
  | some before =>
    rw [found] at after
    refine .inr ⟨before, rfl, ?_⟩
    cases taken with
    | dispatch event =>
      simp only [Step.map, clientStep, Option.map_some, Option.some.injEq] at after
      cases connected : before.connected with
      | true =>
        rw [connected, if_pos rfl] at after
        exact .inl ⟨event, after.symm, by simp [sentBy, Step.map, connected]⟩
      | false =>
        rw [connected, if_neg (by simp)] at after
        exact .inr
          ⟨by simp [sentBy, Step.map, connected], .inr ⟨by rw [after], by rw [after], by rw [after]⟩⟩
    | subscribe other asked =>
      simp only [Step.map, clientStep, Option.isNone_some, Bool.false_eq_true,
        and_false, if_false, Option.some.injEq] at after
      exact .inr ⟨by simp [sentBy, Step.map], .inr ⟨by rw [after], by rw [after], by rw [after]⟩⟩
    | disconnect other =>
      simp only [Step.map, clientStep, Option.map_some] at after
      refine .inr ⟨by simp [sentBy, Step.map], .inr ?_⟩
      split at after
      · cases after
        exact ⟨rfl, rfl, rfl⟩
      · cases after
        exact ⟨rfl, rfl, rfl⟩
    | read other =>
      simp only [Step.map, clientStep, Option.map_some] at after
      refine .inr ⟨by simp [sentBy, Step.map], ?_⟩
      split at after
      · cases connected : before.connected with
        | true =>
          rw [connected, if_pos rfl] at after
          exact .inl (Option.some.inj after).symm
        | false =>
          rw [connected, if_neg (by simp)] at after
          cases after
          exact .inr ⟨rfl, rfl, rfl⟩
      · cases after
        exact .inr ⟨rfl, rfl, rfl⟩

theorem progress_after (maxQueue : Int) (id : κ) (steps : List (Step κ α)) :
    (clientAfter maxQueue id (number steps) = none → sent maxQueue id (number steps) = []) ∧
      ∀ client, clientAfter maxQueue id (number steps) = some client →
        Progress (sent maxQueue id (number steps)) steps.length client := by
  induction steps using List.reverseRecOn with
  | nil =>
    refine ⟨fun _ => rfl, fun client after => ?_⟩
    cases after
  | append_singleton steps taken ih =>
    obtain ⟨absent, present⟩ := ih
    rw [number_snoc, List.length_append, List.length_singleton]
    constructor
    · intro none
      rw [clientAfter_snoc] at none
      rw [sent_snoc]
      cases found : clientAfter maxQueue id (number steps) with
      | none =>
        rw [absent found]
        cases taken <;> rfl
      | some before =>
        rw [found] at none
        cases taken with
        | dispatch | subscribe => simp [clientStep, Step.map] at none
        | disconnect | read =>
          simp only [clientStep, Step.map, Option.map_some] at none
          split at none <;> cases none
    · intro client after
      rcases clientStep_cases after with ⟨found, queue, received, same⟩ |
        ⟨before, found, ⟨event, rfl, more⟩ | ⟨same, rfl | ⟨bound, queue, received⟩⟩⟩
      · rw [same, absent found]
        refine ⟨List.Pairwise.nil,
          by simp, fun positive => ?_, ⟨[], by simp [queue], by simp [received]⟩, fun _ => ?_⟩
        · rw [queue]
          simpa using positive.le
        · rw [received]
      · rw [more]
        exact (present before found).offer event
      · rw [same]
        exact (present before found).read.later
      · rw [same]
        have progress := (present before found).later
        refine ⟨progress.ordered, progress.below, ?_, ?_, ?_⟩
        · rw [bound, queue]
          exact progress.fits
        · rw [queue, received]
          exact progress.split
        · rw [queue, received]
          exact progress.newest

theorem missing_outrun (maxQueue : Int) (id : κ) (steps : List (Step κ α))
    {client : Client (Nat × α)} (after : clientAfter maxQueue id (number steps) = some client) :
    ∀ event ∈ sent maxQueue id (number steps), event ∉ client.received ++ client.queue →
      ∃ early before, early <+: steps ∧ clientAfter maxQueue id (number early) = some before ∧
        before.bound ≤ (sent maxQueue id (number early)).countP (fun later => event.1 < later.1) ∧
        ∀ read ∈ before.received, read.1 < event.1 := by
  induction steps using List.reverseRecOn generalizing client with
  | nil => cases after
  | append_singleton steps taken ih =>
    intro event member absent
    have earlier : ∀ before, clientAfter maxQueue id (number steps) = some before →
        event ∈ sent maxQueue id (number steps) → event ∉ before.received ++ before.queue →
        ∃ early before, early <+: steps ++ [taken] ∧ clientAfter maxQueue id (number early) =
          some before ∧
          before.bound ≤ (sent maxQueue id (number early)).countP (fun later => event.1 < later.1) ∧
          ∀ read ∈ before.received, read.1 < event.1 := by
      intro before found inside missing
      obtain ⟨early, state, front, rest⟩ := ih found event inside missing
      exact ⟨early, state, front.trans (List.prefix_append _ _), rest⟩
    have whole := after
    rw [number_snoc] at after member
    rcases clientStep_cases after with ⟨found, queue, received, same⟩ |
      ⟨before, found, ⟨other, rfl, more⟩ | ⟨same, rfl | ⟨_, queue, received⟩⟩⟩
    · rw [same, (progress_after maxQueue id steps).1 found] at member
      cases member
    · have progress := (progress_after maxQueue id steps).2 before found
      rw [more] at member
      rcases offer_cases progress.fits (steps.length, other) with ⟨_, offered⟩
        | ⟨oldest, later, queue, _, full, offered⟩
      · rw [offered] at absent
        simp only [List.mem_append, List.mem_singleton, not_or] at absent member
        rcases member with inside | rfl
        · exact earlier before found inside (by simp [absent.1, absent.2.1])
        · exact absurd rfl absent.2.2
      · rw [offered] at absent
        simp only [List.mem_append, List.mem_singleton, not_or] at absent member
        rcases member with inside | rfl
        · by_cases dropped : event = oldest
          · subst dropped
            obtain ⟨past, split, received⟩ := progress.split
            have shape : sent maxQueue id (number (steps ++ [taken])) =
                past ++ event :: (later ++ [(steps.length, other)]) := by
              rw [number_snoc, more, split, queue]
              simp
            have ordered := (progress.offer other).ordered
            rw [← more, ← number_snoc, shape] at ordered
            obtain ⟨_, newer, across⟩ := List.pairwise_append.mp ordered
            have all : ∀ newest ∈ later ++ [(steps.length, other)],
                decide (event.1 < newest.1) = true :=
              fun newest inside => decide_eq_true (List.rel_of_pairwise_cons newer inside)
            refine ⟨steps ++ [taken], _, List.prefix_rfl, whole, ?_, ?_⟩
            · rw [shape, List.countP_append, List.countP_cons, List.countP_eq_length.mpr all, offered]
              change before.bound ≤ _
              rw [full, queue]
              simp only [List.length_cons, List.length_append]
              omega
            · intro read member
              rw [offered] at member
              exact across read (received.subset member) event List.mem_cons_self
          · exact earlier before found inside (by simp [absent.1, queue, dropped, absent.2.1])
        · exact absurd rfl absent.2.2
    · rw [same] at member
      refine earlier before found member ?_
      rw [Client.read] at absent
      cases queue : before.queue with
      | nil =>
        rw [queue] at absent
        simpa [queue] using absent
      | cons first later =>
        rw [queue] at absent
        simpa using absent
    · rw [same] at member
      refine earlier before found member ?_
      rw [← queue, ← received]
      exact absent

theorem served (maxQueue : Int) (id : κ) (steps : List (Step κ α)) {client : Client (Nat × α)}
    (after : clientAfter maxQueue id (number steps) = some client) :
    Served maxQueue id steps client := by
  have progress := (progress_after maxQueue id steps).2 client after
  obtain ⟨past, split, received⟩ := progress.split
  refine ⟨?_, progress.ordered, missing_outrun maxQueue id steps after, fun last newest => ?_⟩
  · rw [split]
    exact received.append (List.Sublist.refl _)
  · by_cases empty : client.queue = []
    · rw [← progress.newest empty] at newest
      exact List.mem_append_left _ (List.mem_of_getLast? newest)
    · rw [split, List.getLast?_append_of_ne_nil _ empty] at newest
      exact List.mem_append_right _ (List.mem_of_getLast? newest)

/-! ## Numbering the events changes nothing -/

omit [DecidableEq κ] in
theorem full_map (f : α → β) (client : Client α) : (client.map f).full = client.full := by
  simp [Client.full, Client.map]

omit [DecidableEq κ] in
theorem offer_map (f : α → β) (client : Client α) (event : α) :
    (client.map f).offer (f event) = (client.offer event).map f := by
  have put : ∀ other : Client α, (other.map f).putNowait (f event) =
      (other.putNowait event).map f := by
    intro other
    rw [Client.putNowait, Client.putNowait, full_map]
    split
    · rfl
    · simp [Client.map]
  rw [Client.offer, Client.offer, full_map]
  split
  · rw [← put]
    simp [Client.map]
  · exact put client

omit [DecidableEq κ] in
theorem read_map (f : α → β) (client : Client α) : (client.map f).read = client.read.map f := by
  rw [Client.read, Client.read]
  cases queue : client.queue with
  | nil => simp [Client.map, queue]
  | cons event later => simp [Client.map, queue]

theorem clientStep_map (f : α → β) (client : Option (Client α)) (taken : Step κ α) :
    clientStep maxQueue id (client.map fun client => client.map f) (taken.map f) =
      (clientStep maxQueue id client taken).map fun client => client.map f := by
  have kept : ∀ client : Client α, (client.map f).connected = client.connected := fun _ => rfl
  cases taken with
  | dispatch event =>
    cases client with
    | none => rfl
    | some client =>
      simp only [Step.map, clientStep, Option.map_some, kept, offer_map]
      split <;> rfl
  | subscribe other asked =>
    simp only [Step.map, clientStep, Option.isNone_map]
    split <;> rfl
  | disconnect other =>
    cases client with
    | none => simp only [Step.map, clientStep, Option.map_none, ite_self]
    | some client =>
      simp only [Step.map, clientStep, Option.map_some]
      split <;> rfl
  | read other =>
    cases client with
    | none => simp only [Step.map, clientStep, Option.map_none, ite_self]
    | some client =>
      simp only [Step.map, clientStep, Option.map_some, kept, read_map]
      split
      · split <;> rfl
      · rfl

theorem clientAfter_map (maxQueue : Int) (id : κ) (f : α → β) (steps : List (Step κ α)) :
    clientAfter maxQueue id
      (steps.map (Step.map f)) = (clientAfter maxQueue id steps).map fun client =>
      client.map f := by
  induction steps using List.reverseRecOn with
  | nil => rfl
  | append_singleton steps taken ih =>
    rw [List.map_append, List.map_singleton, clientAfter_snoc, clientAfter_snoc, ih, clientStep_map]

omit [DecidableEq κ] in
theorem number_unnumbered (steps : List (Step κ α)) :
    (number steps).map (Step.map Prod.snd) = steps := by
  have each : (fun entry : Step κ α × Nat => (entry.1.map (Prod.mk entry.2)).map Prod.snd) =
      Prod.fst := by
    funext entry
    obtain ⟨taken, place⟩ := entry
    cases taken <;> rfl
  rw [number, List.map_map]
  change steps.zipIdx.map (fun entry => (entry.1.map (Prod.mk entry.2)).map Prod.snd) = steps
  rw [each, List.zipIdx_map_fst]

/-- In every run a client has the newest of what it was sent, in order and once, misses only what
was overtaken, and has the same in every run with the same dispatches and the same steps of its
own. -/
theorem slow_client_served (maxQueue : Int) (id : κ) (steps : List (Step κ α)) :
    (∀ client, clientAfter maxQueue id (number steps) = some client →
      Served maxQueue id steps client) ∧ clientAfter maxQueue id steps =
        (clientAfter maxQueue id (number steps)).map (fun client => client.map Prod.snd) ∧
      ∀ others : List (Step κ α), steps.filter (concerns id) = others.filter (concerns id) →
        clientAfter maxQueue id steps = clientAfter maxQueue id others := by
  refine ⟨fun client after => served maxQueue id steps after, ?_, fun others same => ?_⟩
  · rw [← clientAfter_map, number_unnumbered]
  · rw [← clientAfter_filter, same, clientAfter_filter]

end

end SysadminAssistant.Monitor.EventStream
