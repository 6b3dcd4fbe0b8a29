import DvbReceiver.Remote
import Mathlib.Data.List.Basic

set_option autoImplicit false

namespace DvbReceiver

namespace KeyChannel

theorem poll_room {c : KeyChannel} (room : c.unread.length < depth) (key : KeyEvent) :
    c.poll (.ok (some key)) = { c with unread := c.unread ++ [key] } :=
  if_pos room

theorem poll_full {c : KeyChannel} (full : ¬ c.unread.length < depth) (key : KeyEvent) :
    c.poll (.ok (some key)) = { c with dropped := c.dropped + 1 } :=
  if_neg full

theorem unread_read (c : KeyChannel) : c.read.1.toList ++ c.read.2.unread = c.unread := by
  unfold read
  cases c.unread with
  | nil => rfl
  | cons key rest => rfl

end KeyChannel

namespace RemoteControl

open KeyChannel (depth)

variable {r : RemoteControl} {key : KeyEvent}

namespace Move

def key? : Move → Option KeyEvent
  | .look (.ok key) => key
  | _ => none

def isIdle : Move → Bool
  | .look (.ok (some _)) => false
  | .look _ => true
  | _ => false

def isStop : Move → Bool
  | .stop => true
  | _ => false

def isRead : Move → Bool
  | .read => true
  | _ => false

end Move

def polled (moves : List Move) : List KeyEvent :=
  (moves.takeWhile fun m => !m.isStop).filterMap Move.key?

def met (r : RemoteControl) (m : Move) : List (KeyEvent × Nat) :=
  if r.polling then m.key?.toList.map (·, r.channel.unread.length) else []

def encounters (r : RemoteControl) : List Move → List (KeyEvent × Nat)
  | [] => []
  | m :: rest => r.met m ++ (r.act m).2.encounters rest

/-- What is met on the way from one state to another is read, waits to be read, or is counted. -/
structure Told (r r' : RemoteControl) (met : List (KeyEvent × Nat)) (got : List KeyEvent) :
    Prop where
  kept : got ++ r'.channel.unread = r.channel.unread ++ (met.filter (·.2 < depth)).map (·.1)
  dropped : r'.channel.dropped = r.channel.dropped + met.countP (·.2 = depth)
  within : ∀ m ∈ met, m.2 ≤ depth
  bounded : r'.channel.unread.length ≤ depth

theorem Told.refl (bounded : r.channel.unread.length ≤ depth) : Told r r [] [] :=
  ⟨by simp, rfl, by simp, bounded⟩

theorem Told.trans {r' r'' : RemoteControl} {met met' : List (KeyEvent × Nat)}
    {got got' : List KeyEvent} (first : Told r r' met got) (second : Told r' r'' met' got') :
    Told r r'' (met ++ met') (got ++ got') where
  kept := by
    rw [List.append_assoc, second.kept, ← List.append_assoc, first.kept]
    simp
  dropped := by rw [second.dropped, first.dropped, List.countP_append, Nat.add_assoc]
  within := List.forall_mem_append.2 ⟨first.within, second.within⟩
  bounded := second.bounded

theorem act_idle {m : Move} (idle : m.isIdle) (r : RemoteControl) : r.act m = (none, r) := by
  match m, idle with
  | .look (.error _), _ => simp [act, KeyChannel.poll]
  | .look (.ok none), _ => simp [act, KeyChannel.poll]

theorem met_idle {m : Move} (idle : m.isIdle) (r : RemoteControl) : r.met m = [] := by
  match m, idle with
  | .look (.error _), _ => simp [met, Move.key?]
  | .look (.ok none), _ => simp [met, Move.key?]

theorem told_found (bounded : r.channel.unread.length ≤ depth) (key : KeyEvent) :
    Told r { r with channel := r.channel.poll (.ok (some key)) }
      [(key, r.channel.unread.length)] [] := by
  by_cases room : r.channel.unread.length < depth
  · have notFull : r.channel.unread.length ≠ depth := Nat.ne_of_lt room
    rw [KeyChannel.poll_room room]
    exact ⟨by simp [room], by simp [notFull], by simpa using bounded,
      by simpa using Nat.succ_le_of_lt room⟩
  · have full : r.channel.unread.length = depth := by omega
    rw [KeyChannel.poll_full room]
    exact ⟨by simp [full], by simp [full], by simp [full], bounded⟩

theorem told_act (bounded : r.channel.unread.length ≤ depth) (m : Move) :
    Told r (r.act m).2 (r.met m) (r.act m).1.toList := by
  cases m with
  | look outcome =>
    match outcome with
    | .error _ => rw [act_idle rfl, met_idle rfl]; exact .refl bounded
    | .ok none => rw [act_idle rfl, met_idle rfl]; exact .refl bounded
    | .ok (some key) =>
      by_cases polling : r.polling
      · simpa [act, met, Move.key?, polling] using told_found bounded key
      · simpa [act, met, Move.key?, polling] using Told.refl bounded
  | read =>
    have shorter : r.channel.read.2.unread.length ≤ r.channel.unread.length := by
      simp [KeyChannel.read]
    rw [show r.met .read = [] by simp [met, Move.key?]]
    exact ⟨by simpa [act] using r.channel.unread_read, rfl, by simp,
      Nat.le_trans shorter bounded⟩
  | stop =>
    rw [show r.met .stop = [] by simp [met, Move.key?]]
    exact ⟨by simp [act], rfl, by simp, bounded⟩

theorem told_play (bounded : r.channel.unread.length ≤ depth) (moves : List Move) :
    Told r (r.play moves).2 (r.encounters moves) (r.play moves).1 := by
  induction moves generalizing r with
  | nil => exact .refl bounded
  | cons m rest ih =>
    have now := told_act bounded m
    exact now.trans (ih now.bounded)

theorem polling_act (r : RemoteControl) (m : Move) :
    (r.act m).2.polling = (r.polling && !m.isStop) := by
  cases m with
  | look outcome => by_cases polling : r.polling <;> simp [act, polling, Move.isStop]
  | read => simp [act, Move.isStop]
  | stop => simp [act, Move.isStop]

theorem polling_play (r : RemoteControl) (moves : List Move) :
    (r.play moves).2.polling = (r.polling && moves.all (!·.isStop)) := by
  induction moves generalizing r with
  | nil => simp [play]
  | cons m rest ih => simp [play, ih, polling_act, Bool.and_assoc]

theorem polled_read (rest : List Move) : polled (.read :: rest) = polled rest :=
  rfl

theorem keys_encounters (r : RemoteControl) (moves : List Move) :
    (r.encounters moves).map (·.1) = if r.polling then polled moves else [] := by
  induction moves generalizing r with
  | nil => simp [encounters, polled]
  | cons m rest ih =>
    rw [encounters, List.map_append, ih, polling_act]
    cases polling : r.polling with
    | false => simp [met, polling]
    | true =>
      cases m with
      | stop => simp [met, polled, Move.key?, Move.isStop]
      | read => simp [met, Move.key?, Move.isStop, polled_read]
      | look outcome =>
        cases key : (Move.look outcome).key? with
        | none => simp [met, polling, polled, Move.isStop, key]
        | some event => simp [met, polling, polled, Move.isStop, key]

theorem play_filter_idle (r : RemoteControl) (moves : List Move) :
    r.play (moves.filter (!·.isIdle)) = r.play moves := by
  induction moves generalizing r with
  | nil => rfl
  | cons m rest ih =>
    by_cases idle : m.isIdle
    · rw [List.filter_cons_of_neg (by simp [idle]), ih, play, act_idle idle]
      rfl
    · rw [List.filter_cons_of_pos (by simp [idle])]
      simp only [play, ih]

theorem unread_act {m : Move} (unread : m.isRead = false)
    (bounded : r.channel.unread.length ≤ depth) (more : List KeyEvent) :
    (r.act m).1 = none ∧ ((r.act m).2.channel.unread ++ more).take depth =
      (r.channel.unread ++ ((r.met m).map (·.1) ++ more)).take depth := by
  match m with
  | .stop => exact ⟨rfl, by simp [act, met, Move.key?]⟩
  | .look (.error _) => rw [act_idle rfl, met_idle rfl]; exact ⟨rfl, rfl⟩
  | .look (.ok none) => rw [act_idle rfl, met_idle rfl]; exact ⟨rfl, rfl⟩
  | .look (.ok (some key)) =>
    refine ⟨rfl, ?_⟩
    by_cases polling : r.polling
    · by_cases room : r.channel.unread.length < depth
      · simp [act, met, Move.key?, polling, KeyChannel.poll_room room]
      · have full : r.channel.unread.length = depth := by omega
        simp [act, met, Move.key?, polling, KeyChannel.poll_full room, List.take_left' full]
    · simp [act, met, polling]

theorem unread_play {moves : List Move} (unread : ∀ m ∈ moves, m.isRead = false)
    (bounded : r.channel.unread.length ≤ depth) :
    (r.play moves).1 = [] ∧ (r.play moves).2.channel.unread =
      (r.channel.unread ++ (r.encounters moves).map (·.1)).take depth := by
  induction moves generalizing r with
  | nil => exact ⟨rfl, by simp [play, encounters, List.take_of_length_le bounded]⟩
  | cons m rest ih =>
    obtain ⟨first, others⟩ := List.forall_mem_cons.1 unread
    obtain ⟨got, later⟩ := ih others (told_act bounded m).bounded
    obtain ⟨none, now⟩ := unread_act first bounded (((r.act m).2.encounters rest).map (·.1))
    refine ⟨by simp [play, none, got], ?_⟩
    rw [encounters, List.map_append, ← now, ← later]
    rfl

/-- Whenever the remote control is looked at and whenever its events are read: what was read and
what can be read are the keys that were found, in order, without those that met a full channel,
and these are counted. Only `stop` ends the polling, and looks without a key might as well not
have been. If nobody reads, the first keys stay. -/
theorem accounted_play (moves : List Move) :
    let found := ({} : RemoteControl).encounters moves
    let (got, r) := ({} : RemoteControl).play moves
    found.map (·.1) = polled moves ∧ (∀ met ∈ found, met.2 ≤ 32) ∧
    got ++ r.channel.unread = (found.filter (·.2 < 32)).map (·.1) ∧
    r.channel.dropped = found.countP (·.2 = 32) ∧
    (got ++ r.channel.unread).Sublist (polled moves) ∧
    (polled moves).length = (got ++ r.channel.unread).length + r.channel.dropped ∧
    r.polling = moves.all (!·.isStop) ∧
    ({} : RemoteControl).play (moves.filter (!·.isIdle)) = (got, r) ∧
    ((∀ m ∈ moves, m.isRead = false) →
      got = [] ∧ r.channel.unread = (polled moves).take 32 ∧
        r.channel.dropped = (polled moves).length - 32) := by
  intro found
  have empty : ({} : RemoteControl).channel.unread.length ≤ depth := Nat.zero_le _
  have keys : found.map (·.1) = polled moves := keys_encounters {} moves
  obtain ⟨kept, dropped, within, -⟩ := told_play empty moves
  rw [List.nil_append] at kept
  rw [Nat.zero_add] at dropped
  have missing : (polled moves).length =
      (({} : RemoteControl).play moves).1.length +
        (({} : RemoteControl).play moves).2.channel.unread.length +
        (({} : RemoteControl).play moves).2.channel.dropped := by
    have full : found.countP (·.2 = depth) = found.countP (fun met => ¬ (met.2 < depth)) :=
      List.countP_congr fun met there => by
        have limit := within met there
        simp only [decide_eq_true_eq]
        omega
    rw [← List.length_append, kept, dropped, full, List.length_map, ← List.countP_eq_length_filter,
      ← keys, List.length_map, List.length_eq_countP_add_countP (fun met => met.2 < depth)]
    simp [found]
  refine ⟨keys, within, kept, dropped, ?_, by simpa using missing, polling_play {} moves,
    play_filter_idle {} moves, fun unread => ?_⟩
  · rw [kept, ← keys]
    exact List.filter_sublist.map _
  · obtain ⟨none, first⟩ := unread_play unread empty
    rw [show ({} : RemoteControl).encounters moves = found from rfl, keys] at first
    have rest : (({} : RemoteControl).play moves).2.channel.dropped =
        (polled moves).length - depth := by
      rw [none, first, List.nil_append, List.length_take, List.length_nil] at missing
      omega
    exact ⟨none, first, rest⟩

theorem accounted_play_full :
    let keys := (List.range 34).map fun n => Move.look (.ok (some ⟨n, true⟩))
    let moves := .look (.error (.device "busy")) :: keys ++ [.look (.ok none)]
    let played := ({} : RemoteControl).play moves
    (∀ m ∈ moves, m.isRead = false) ∧ played.2.polling = true ∧
      played.2.channel.unread = (polled moves).take 32 ∧ played.2.channel.dropped = 2 := by
  intro keys moves played
  have unread : ∀ m ∈ moves, m.isRead = false := by decide
  obtain ⟨-, -, -, -, -, -, polling, -, first⟩ := accounted_play moves
  exact ⟨unread, polling.trans (by decide), (first unread).2.1,
    (first unread).2.2.trans (by decide)⟩

end RemoteControl

end DvbReceiver
