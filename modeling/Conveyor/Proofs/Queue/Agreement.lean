import Conveyor.Proofs.Queue.Rows

/-!
# Queues that answer alike

The queue in memory forgets a message that is acknowledged and knows of the others whether they
are in flight; the queue in a table keeps all of them and writes down how far they have come.  To
their callers they are the same: between the rows that are not acknowledged and the messages in
memory there is always a one-to-one correspondence, in order, and no call can tell the two apart.

* `MessageRow.Bears` — a row and a message that correspond; `Mirrors` — rows and messages.
* `Mirrors.map`, `Mirrors.ack`, `Mirrors.claim`, `Mirrors.countP` — what changes them alike.
* `Agree` — queues that correspond; `Agree.claim`, `Agree.call_of_not_claim` and **`Agree.call`** —
  they give the same answer to every call and correspond again.
* **`answers_table_eq_memory`** — empty queues answer all calls alike.
-/

namespace Conveyor

open MemoryQueue (Call Event)

section

variable {α : Type} {wanted : α → Bool} {change : α → α}

theorem claimFirst_zero (items : List α) : claimFirst wanted change 0 items = ([], items) := by
  cases items <;> rfl

theorem claimFirst_of_not_wanted {a : α} (h : wanted a = false) (limit : Nat) (items : List α) :
    claimFirst wanted change limit (a :: items)
      = ((claimFirst wanted change limit items).1,
          a :: (claimFirst wanted change limit items).2) := by
  cases limit with
  | zero => rw [claimFirst_zero, claimFirst_zero]
  | succ limit => simp [claimFirst, h]

theorem claimFirst_of_wanted {a : α} (h : wanted a = true) (limit : Nat) (items : List α) :
    claimFirst wanted change (limit + 1) (a :: items)
      = (change a :: (claimFirst wanted change limit items).1,
        change a :: (claimFirst wanted change limit items).2) := by
  simp [claimFirst, h]

/-- A limit that is no less than the number of items is none. -/
theorem claimFirst_of_length_le {items : List α} {limit limit' : Nat}
    (enough : items.length ≤ limit) (enough' : items.length ≤ limit') :
    claimFirst wanted change limit items = claimFirst wanted change limit' items := by
  induction items generalizing limit limit' with
  | nil => rfl
  | cons a items ih =>
    rw [List.length_cons] at enough enough'
    cases h : wanted a with
    | false =>
      rw [claimFirst_of_not_wanted h, claimFirst_of_not_wanted h,
        ih (Nat.le_of_succ_le enough) (Nat.le_of_succ_le enough')]
    | true =>
      obtain ⟨limit, rfl⟩ := Nat.exists_eq_add_of_le' (Nat.le_trans (Nat.le_add_left 1 _) enough)
      obtain ⟨limit', rfl⟩ := Nat.exists_eq_add_of_le' (Nat.le_trans (Nat.le_add_left 1 _) enough')
      rw [claimFirst_of_wanted h, claimFirst_of_wanted h,
        ih (Nat.le_of_succ_le_succ enough) (Nat.le_of_succ_le_succ enough')]

end

/-! ## Rows and messages -/

/-- A row keeps a message that is not acknowledged. -/
structure MessageRow.Bears (row : MessageRow) (m : StoredMessage) : Prop where
  sheet : row.sheet = m.publication.sheet
  status : row.status = if m.inFlight then MessageRow.inFlight else MessageRow.pending
  attempts : Fin.ofNat _ row.attempts = m.attempts
  fits : m.envelope.taskId.Fits

namespace MessageRow.Bears

variable {row : MessageRow} {m : StoredMessage}

theorem id_eq (h : row.Bears m) : row.id = m.id := congrArg Sheet.id h.sheet

theorem topic_eq (h : row.Bears m) : row.topic = m.topic := congrArg Sheet.topic h.sheet

theorem partition_eq (h : row.Bears m) : row.partition = m.partition :=
  congrArg Sheet.partition h.sheet

theorem isPendingOn (h : row.Bears m) (topic : String) (partition : Nat) :
    row.isPendingOn topic partition = m.isPendingOn topic partition := by
  rw [MessageRow.isPendingOn, StoredMessage.isPendingOn, h.topic_eq, h.partition_eq, h.status]
  cases m.inFlight with
  | true => simp [pending, inFlight]
  | false => simp [Bool.and_comm]

theorem inFlight_iff (h : row.Bears m) : row.status = inFlight ↔ m.inFlight = true := by
  rw [h.status]
  cases m.inFlight <;> simp [pending, inFlight]

theorem launched (h : row.Bears m) : row.launched.Bears m.launched :=
  ⟨h.sheet, rfl, (Attempts.ofNat_succ _).trans (congrArg (· + 1) h.attempts), h.fits⟩

theorem landed (h : row.Bears m) : { row with status := pending }.Bears m.landed :=
  ⟨h.sheet, rfl, h.attempts, h.fits⟩

/-- To land what is not in flight changes nothing. -/
theorem landed_of_pending (h : row.Bears m) (waits : m.inFlight = false) : row.Bears m.landed := by
  refine ⟨h.sheet, ?_, h.attempts, h.fits⟩
  rw [h.status, waits]
  rfl

/-- What comes back from its flight does so in both queues. -/
theorem land_if (h : row.Bears m) {wanted wanted' : Prop} [Decidable wanted] [Decidable wanted']
    (same : wanted ↔ wanted') :
    (if wanted ∧ row.status = inFlight then { row with status := pending } else row).Bears
      (if wanted' then m.landed else m) := by
  by_cases lands : wanted
  · rw [if_pos (same.1 lands)]
    cases flies : m.inFlight with
    | true =>
      rw [if_pos ⟨lands, h.inFlight_iff.2 flies⟩]
      exact h.landed
    | false =>
      have waits : ¬ (wanted ∧ row.status = inFlight) := by
        rw [h.inFlight_iff, flies]
        simp
      rw [if_neg waits]
      exact h.landed_of_pending flies
  · rw [if_neg (mt same.2 lands), if_neg (fun both => lands both.1)]
    exact h

theorem delivery (h : row.Bears m) : row.delivery = .ok m.delivery := by
  rw [delivery_of_sheet h.sheet h.fits, h.attempts]
  rfl

end MessageRow.Bears

/-- Rows, the acknowledged ones left out, keep messages in their order. -/
inductive Mirrors : List MessageRow → List StoredMessage → Prop
  | nil : Mirrors [] []
  | gone {row : MessageRow} {rows : List MessageRow} {ms : List StoredMessage}
      (acked : row.status = MessageRow.acked) (rest : Mirrors rows ms) : Mirrors (row :: rows) ms
  | live {row : MessageRow} {m : StoredMessage} {rows : List MessageRow} {ms : List StoredMessage}
      (bears : row.Bears m) (rest : Mirrors rows ms) : Mirrors (row :: rows) (m :: ms)

namespace Mirrors

open MessageRow (pending inFlight acked)

variable {rows : List MessageRow} {ms : List StoredMessage}

theorem append (h : Mirrors rows ms) {row : MessageRow} {m : StoredMessage} (bears : row.Bears m) :
    Mirrors (rows ++ [row]) (ms ++ [m]) := by
  induction h with
  | nil => exact .live bears .nil
  | gone acked _ ih => exact .gone acked ih
  | live first _ ih => exact .live first ih

/-- Rows and messages that are changed alike keep corresponding. -/
theorem map (h : Mirrors rows ms) {f : MessageRow → MessageRow} {g : StoredMessage → StoredMessage}
    (gone : ∀ row, row.status = acked → (f row).status = acked)
    (live : ∀ row m, row.Bears m → (f row).Bears (g m)) : Mirrors (rows.map f) (ms.map g) := by
  induction h with
  | nil => exact .nil
  | gone acked _ ih => exact .gone (gone _ acked) ih
  | live bears _ ih => exact .live (live _ _ bears) ih

/-- **An acknowledgement** marks the row of the message that is forgotten. -/
theorem ack (h : Mirrors rows ms) (id : MessageId) :
    Mirrors (rows.map fun row => if row.id = id then { row with status := acked } else row)
      (ms.filter fun m => m.id ≠ id) := by
  induction h with
  | nil => exact .nil
  | @gone row _ _ old _ ih =>
    refine .gone ?_ ih
    show (if row.id = id then { row with status := acked } else row).status = acked
    split
    · rfl
    · exact old
  | @live row m _ _ bears _ ih =>
    by_cases same : m.id = id
    · rw [List.filter_cons_of_neg (by simpa using same), List.map_cons,
        if_pos (bears.id_eq.trans same)]
      exact .gone rfl ih
    · rw [List.filter_cons_of_pos (by simpa using same), List.map_cons,
        if_neg (bears.id_eq ▸ same)]
      exact .live bears ih

/-- **A claim** takes the rows of the messages that are delivered. -/
theorem claim (h : Mirrors rows ms) (topic : String) (partition limit : Nat) :
    (claimFirst (MessageRow.isPendingOn topic partition) MessageRow.launched limit rows).1.mapM
        MessageRow.delivery
      = .ok ((claimFirst (StoredMessage.isPendingOn topic partition) StoredMessage.launched limit
          ms).1.map StoredMessage.delivery) ∧
    Mirrors
      (claimFirst (MessageRow.isPendingOn topic partition) MessageRow.launched limit rows).2
      (claimFirst (StoredMessage.isPendingOn topic partition) StoredMessage.launched limit
        ms).2 := by
  induction h generalizing limit with
  | nil => exact ⟨rfl, .nil⟩
  | @gone row _ _ old _ ih =>
    obtain ⟨delivered, left⟩ := ih limit
    have unwanted : row.isPendingOn topic partition = false := by
      rw [MessageRow.isPendingOn, old]
      simp [pending, acked]
    rw [claimFirst_of_not_wanted unwanted]
    exact ⟨delivered, .gone old left⟩
  | @live row m _ _ bears rest ih =>
    have alike := bears.isPendingOn topic partition
    cases wanted : m.isPendingOn topic partition with
    | false =>
      obtain ⟨delivered, left⟩ := ih limit
      rw [claimFirst_of_not_wanted wanted, claimFirst_of_not_wanted (alike.trans wanted)]
      exact ⟨delivered, .live bears left⟩
    | true =>
      cases limit with
      | zero =>
        rw [claimFirst_zero, claimFirst_zero]
        exact ⟨rfl, .live bears rest⟩
      | succ limit =>
        obtain ⟨delivered, left⟩ := ih limit
        rw [claimFirst_of_wanted wanted, claimFirst_of_wanted (alike.trans wanted),
          List.mapM_cons, bears.launched.delivery, delivered]
        exact ⟨rfl, .live bears.launched left⟩

theorem countP (h : Mirrors rows ms) {p : MessageRow → Bool} {p' : StoredMessage → Bool}
    (gone : ∀ row, row.status = acked → p row = false)
    (live : ∀ row m, row.Bears m → p row = p' m) : rows.countP p = ms.countP p' := by
  induction h with
  | nil => rfl
  | gone acked _ ih => rw [List.countP_cons_of_neg (by simp [gone _ acked]), ih]
  | live bears _ ih => rw [List.countP_cons, List.countP_cons, live _ _ bears, ih]

end Mirrors

/-! ## Queues -/

theorem MemoryQueue.Call.on_eq (c : Call) (q : MemoryQueue) :
    c.on q = (.ok (c.event q), c.after q) := by
  cases c <;> rfl

/-- A table and a queue in memory that no call can tell apart. -/
structure Agree (t : TableQueue) (q : MemoryQueue) : Prop where
  opened : t.closed = false
  issued : t.rows.length = q.issued
  mirrors : Mirrors t.rows q.messages

namespace Agree

open MessageRow (pending inFlight acked)

variable {t : TableQueue} {q : MemoryQueue}

/-- **A claim** delivers alike if the table allows as much as is asked of the queue in memory. -/
theorem claim (h : Agree t q) (topic : String) (partition limit : Nat) {granted : Nat}
    (same : claimFirst (MessageRow.isPendingOn topic partition) MessageRow.launched
        (TableQueue.allowed limit t.rows) t.rows
      = claimFirst (MessageRow.isPendingOn topic partition) MessageRow.launched granted t.rows) :
    ∃ t', TableQueue.claim topic partition limit t = (.ok (q.claim topic partition granted).1, t') ∧
      Agree t' (q.claim topic partition granted).2 := by
  obtain ⟨delivered, left⟩ := h.mirrors.claim topic partition granted
  have claimed := TableQueue.claim_of_open h.opened topic partition limit
  rw [same, delivered] at claimed
  have kept : (claimFirst (MessageRow.isPendingOn topic partition) MessageRow.launched granted
      t.rows).2.length = t.rows.length := by
    simpa using congrArg List.length (map_claimFirst_snd (MessageRow.isPendingOn topic partition)
      MessageRow.launched MessageRow.id (fun _ => rfl) granted t.rows)
  exact ⟨_, claimed, h.opened, kept.trans h.issued, left⟩

/-- A call that claims nothing is answered alike. -/
theorem call_of_not_claim (h : Agree t q) {c : Call} (fits : c.Fits)
    (other : ∀ topic partition limit, c ≠ .claim topic partition limit) :
    (c.on t).1 = .ok (c.event q) ∧ Agree (c.on t).2 (c.after q) := by
  have stays : ∀ {wanted : MessageRow → Prop} [DecidablePred wanted] (row : MessageRow),
      row.status = acked →
        (if wanted row ∧ row.status = inFlight then { row with status := pending }
          else row).status = acked := by
    intro wanted _ row gone
    rw [if_neg (fun flies => by simp [gone, acked, inFlight] at flies)]
    exact gone
  cases c with
  | publish topic partition e =>
    have run : (Call.publish topic partition e).on t = _ :=
      Action.bind_of_ok (TableQueue.publish_of_open h.opened topic partition e)
    rw [run, h.issued]
    refine ⟨rfl, h.opened, ?_, h.mirrors.append ⟨rfl, rfl, rfl, fits⟩⟩
    simp [Call.after, h.issued]
  | claim topic partition limit => exact absurd rfl (other topic partition limit)
  | ack id =>
    have run : (Call.ack id).on t = _ :=
      Action.bind_of_ok (TableQueue.ack_of_open h.opened id)
    rw [run]
    exact ⟨rfl, h.opened, (List.length_map ..).trans h.issued, h.mirrors.ack id⟩
  | release id =>
    have run : (Call.release id).on t = _ :=
      Action.bind_of_ok (TableQueue.release_of_open h.opened id)
    rw [run]
    refine ⟨rfl, h.opened, (List.length_map ..).trans h.issued,
      h.mirrors.map stays fun row m bears => bears.land_if ?_⟩
    rw [bears.id_eq]
  | recover topic =>
    have run : (Call.recover topic).on t = _ :=
      Action.bind_of_ok (TableQueue.recover_of_open h.opened topic)
    have count : (t.rows.countP fun row => row.status = inFlight && row.topic = topic)
        = q.messages.countP fun m => m.inFlight && m.topic = topic := by
      refine h.mirrors.countP (fun row gone => by simp [gone, acked, inFlight])
        fun row m bears => ?_
      simp only [bears.inFlight_iff, bears.topic_eq, Bool.decide_eq_true]
    rw [run, count]
    refine ⟨rfl, h.opened, (List.length_map ..).trans h.issued,
      h.mirrors.map stays fun row m bears => bears.land_if ?_⟩
    rw [bears.topic_eq]
  | outstanding topic =>
    have run : (Call.outstanding topic).on t = _ :=
      Action.bind_of_ok (TableQueue.outstanding_of_open h.opened topic)
    have count : (t.rows.countP fun row =>
          row.topic = topic && (row.status = pending || row.status = inFlight))
        = q.messages.countP fun m => m.topic = topic := by
      refine h.mirrors.countP (fun row gone => by simp [gone, acked, inFlight, pending])
        fun row m bears => ?_
      rw [bears.topic_eq, bears.status]
      cases m.inFlight <;> simp
    rw [run, count]
    exact ⟨rfl, h⟩

/-- **Every call is answered alike**, and leaves queues that agree again. -/
theorem call (h : Agree t q) {c : Call} (fits : c.Fits)
    (room : (t.rows.length : Int) ≤ Text.maxSigned) :
    (c.on t).1 = .ok (c.event q) ∧ Agree (c.on t).2 (c.after q) := by
  cases c with
  | claim topic partition limit =>
    have unlimited : claimFirst (MessageRow.isPendingOn topic partition) MessageRow.launched
        (TableQueue.allowed limit t.rows) t.rows
        = claimFirst (MessageRow.isPendingOn topic partition) MessageRow.launched limit t.rows := by
      rw [TableQueue.allowed]
      split
      · rfl
      · exact claimFirst_of_length_le (Nat.le_refl _) (by omega)
    obtain ⟨t', claimed, agree⟩ := h.claim topic partition limit unlimited
    have run : (Call.claim topic partition limit).on t = _ := Action.bind_of_ok claimed
    rw [run]
    exact ⟨rfl, agree⟩
  | _ => exact h.call_of_not_claim fits nofun

end Agree

/-! ## Answers -/

/-- What a queue answers to calls, one after the other. -/
def answers {Q : Type} [MessageQueue Q] (q : Q) : List Call → List (Except StoreError Event)
  | [] => []
  | c :: later => (c.on q).1 :: answers (c.on q).2 later

theorem answers_append {Q : Type} [MessageQueue Q] (q : Q) (calls : List Call) (c : Call) :
    answers q (calls ++ [c]) = answers q calls ++ [(c.on (queueAfterAll q calls)).1] := by
  induction calls generalizing q with
  | nil => rfl
  | cons first calls ih => exact congrArg ((first.on q).1 :: ·) (ih (first.on q).2)

/-- Empty queues have agreed on the same answers, and agree. -/
theorem agree_after {calls : List Call} (fits : ∀ c ∈ calls, c.Fits)
    (room : ((publicationsOf calls).length : Int) ≤ Text.maxSigned) :
    answers (Table.empty : TableQueue) calls = answers MemoryQueue.empty calls ∧
      Agree (queueAfterAll Table.empty calls) (queueAfterAll MemoryQueue.empty calls) := by
  induction calls using List.reverseRecOn with
  | nil => exact ⟨rfl, rfl, rfl, .nil⟩
  | append_singleton calls c ih =>
    have shorter : ((publicationsOf calls).length : Int) ≤ Text.maxSigned := by
      rw [publicationsOf_append, List.length_append] at room
      omega
    have rows : (queueAfterAll (Table.empty : TableQueue) calls).rows.length
        = (publicationsOf calls).length := by
      simpa using congrArg List.length (TableQueue.sheets_after calls).2
    obtain ⟨same, agree⟩ := ih (fun c mem => fits c (List.mem_append_left _ mem)) shorter
    obtain ⟨answer, next⟩ := agree.call (fits c (by simp)) (rows ▸ shorter)
    rw [answers_append, answers_append, same, answer, c.on_eq, queueAfterAll_append,
      queueAfterAll_append, c.on_eq]
    exact ⟨rfl, next⟩

/-- **Both queues are the same to their callers**: empty at first, they give the same answers to all
calls, however these come, as long as there are numbers for the messages that they publish. -/
theorem answers_table_eq_memory (calls : List Call) (fits : ∀ c ∈ calls, c.Fits)
    (room : ((publicationsOf calls).length : Int) ≤ Text.maxSigned) :
    answers (Table.empty : TableQueue) calls = answers MemoryQueue.empty calls :=
  (agree_after fits room).1

/-- Calls in an odd order: a message is acknowledged while it waits and released after that,
another is claimed without a limit, recovered, and claimed again. -/
def oddCalls : List Call :=
  [.publish "in" 0 oddEnvelope, .publish "in" 0 oddEnvelope, .ack ⟨1⟩, .release ⟨1⟩,
    .claim "in" 0 18446744073709551615, .release ⟨9⟩, .recover "in", .claim "in" 0 1, .ack ⟨2⟩,
    .outstanding "in"]

theorem answers_oddCalls_eq :
    answers (Table.empty : TableQueue) oddCalls = answers MemoryQueue.empty oddCalls :=
  answers_table_eq_memory oddCalls (by simp [oddCalls, Call.Fits]; decide)
    (by rw [oddCalls]; decide)

end Conveyor
