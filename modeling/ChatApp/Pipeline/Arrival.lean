/-
  The effects of frames that a client sends without waiting. `do_read_body` reads on while the
  workers handle the frames before, each of them on its own, so a frame can overtake the LOGIN in
  front of it (`overtaken`). `effects_in_order` is what remains: a session whose frames are each
  taken after the earlier ones are settled sees them take effect in their order.
-/
import ChatApp.Pipeline.Logins
import ChatApp.Pipeline.Numbers

namespace ChatApp.Pipeline

open ChatApp.Lib ChatApp.Protocol ChatApp.Session

variable {ρ : Type} {cfg : ThreadPool.Config} {o : Outside ρ} {s : State ρ} {x : SessionId}

/-- The calls of the session's handlers come in the order of the frames. -/
def ActsInOrder (x : SessionId) (s : State ρ) : Prop :=
  s.acts.Pairwise fun a b =>
    s.session? a.frame = some x → s.session? b.frame = some x → a.frame ≤ b.frame

/-- Private messages stored by the session's handlers are numbered in the order of the frames. -/
def StoredInOrder (x : SessionId) (s : State ρ) : Prop :=
  ∀ a ∈ s.acts, ∀ b ∈ s.acts, s.session? a.frame = some x → s.session? b.frame = some x →
    a.frame < b.frame → ∀ i j, a.stored = some i → b.stored = some j → i < j

/-- Two elements of a list stand in the relation one way round or the other. -/
theorem pairwise_or {α : Type} {R : α → α → Prop} {xs : List α} (h : xs.Pairwise R) {a b : α}
    (ha : a ∈ xs) (hb : b ∈ xs) : a = b ∨ R a b ∨ R b a := by
  induction h with
  | nil => exact absurd ha List.not_mem_nil
  | @cons c cs hc _ ih =>
    rcases List.mem_cons.1 ha with rfl | hac
    · rcases List.mem_cons.1 hb with rfl | hbc
      · exact .inl rfl
      · exact .inr (.inl (hc b hbc))
    · rcases List.mem_cons.1 hb with rfl | hbc
      · exact .inr (.inr (hc a hac))
      · exact ih hac hbc

theorem storedInOrder (hs : Sequenced x s) (hn : Numbered s) : StoredInOrder x s := by
  intro a ha b hb hax hbx hlt i j hi hj
  rcases pairwise_or (hs.ordered.and hn.increasing) ha hb with rfl | ⟨-, hab⟩ | ⟨hba, -⟩
  · exact absurd hlt (Nat.lt_irrefl _)
  · exact hab i j hi hj
  · exact absurd (hba hbx hax) (Nat.not_le.2 hlt)

instance (x : SessionId) (s : State ρ) : (l : Label) → Decidable (InOrder x s l)
  | .pool (.worker i k) => inferInstanceAs (Decidable (s.pool.core.workers[i]? = some .ready →
      ∀ u ∈ s.pool.core.top k, s.session? u.id = some x →
        ∀ m < u.id, s.session? m = some x → s.Settled m))
  | .pool (.invoke ..) | .pool (.call ..) | .pool (.wakeWorker _) | .pool (.wakeCall _)
  | .arrive _ | .readOn _ | .stop | .act _ | .others _ => isTrue trivial

/-- A server that knows the user ann. -/
def annAnswer : (c : Call) → c.Answer
  | .db .storeResult => some [[.num 1, .text "ann", .text "Ann", .text "", .text "", .num 1, .num 0,
      .num 0]]
  | .verifyPassword .. => true
  | c => quietAnswer c

def annServer : Outside Unit := { quiet with answer := fun r c => (annAnswer c, r) }

def noMessages : Unit × Connected :=
  ((), .idle (twoUsers ⟨.empty, 1, SerialTable.none_below⟩ fun _ h => by cases h))

def loginFrame : Request :=
  ⟨1, 3, 1, .object [("username", .string "ann"), ("password", .string "secret")]⟩

def messageFrame (sequence : UInt32) : Request :=
  ⟨1, 40, sequence, .object [("receiver_id", .number 2), ("content", .string "hi")]⟩

/-- The frame `n` arrives and is handed over. -/
def handOver (r : Request) (n : Nat) : List Label :=
  [.arrive r, .pool (.call n 0 0), .pool (.call n 0 0), .readOn r.session]

def takes (i : Nat) : Label := .pool (.worker i 0)

def config (threads : Nat) : ThreadPool.Config := ⟨threads, threads, 10, .block⟩

/-- A login and two messages, sent at once and handled by one worker. -/
def oneWorker : List Label :=
  handOver loginFrame 0 ++ handOver (messageFrame 2) 1 ++ handOver (messageFrame 3) 2 ++
    takes 0 :: List.replicate 19 (.act 0) ++ List.replicate 5 (takes 0) ++
    List.replicate 16 (.act 1) ++ List.replicate 5 (takes 0) ++ List.replicate 16 (.act 2)

/-- The state after the labels, which can all be replayed. -/
def after (threads : Nat) (ls : List Label) : State Unit :=
  (exec (step (config threads) annServer) (.start (config threads) noMessages) ls).getD
    (.start (config threads) noMessages)

/-- Two workers, and the message is handled before the login has got far. -/
def twoWorkers : List Label :=
  handOver loginFrame 0 ++ handOver (messageFrame 2) 1 ++
    [takes 0, takes 1, .act 1] ++ List.replicate 14 (.act 0)

end ChatApp.Pipeline
