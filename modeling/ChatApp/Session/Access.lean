/-
  Every request keeps to the policy of `Session.Policy`, whatever the database, the clock and the
  other services answer, failures included.

  `Guarded` is one program after known answers, and says what its own answers have shown. `Safe`
  is a program that keeps to the policy after any answers: most of a handler is that, so the
  answers are followed only where a right comes from them.
-/
import ChatApp.Session.Policy

namespace ChatApp.Session

open ChatApp.Lib ChatApp.Lib.Prog ChatApp.Database ChatApp.Protocol

def Session.audit (s : Session) (body : Json) : Audit interface Event :=
  ⟨s.Allowed body, Sigma.mk⟩

/-- The calls of a `Database` method, as the session's. -/
def Session.dbAudit (s : Session) (body : Json) : Audit Database.interface Event :=
  ⟨fun l c => s.Allowed body l (.db c), fun c a => ⟨.db c, a⟩⟩

abbrev Guarded {α : Type} (s : Session) (body : Json) (l : List Event) (p : SessionM α)
    (Q : α → List Event → Prop) : Prop := Prog.Guarded (s.audit body) l p Q

abbrev Safe {α : Type} (s : Session) (body : Json) (p : SessionM α) : Prop :=
  Prog.Safe (s.audit body) p

variable {s : Session} {body : Json} {l : List Event} {α β : Type} {p : SessionM α}
  {f : α → SessionM β} {Q Q' : α → List Event → Prop} {R : β → List Event → Prop}

/-! ## Programs -/

theorem guarded_request {c : Call} {R : c.Answer → List Event → Prop} (hc : s.Allowed body l c)
    (hR : ∀ a, R a (l ++ [⟨c, a⟩])) : Guarded s body l (request c) R := Prog.guarded_lift hc hR

/-- A call, and what is done with its answer. -/
theorem guarded_ask {c : Call} {g : c.Answer → SessionM β} (hc : s.Allowed body l c)
    (hg : ∀ a, Guarded s body (l ++ [⟨c, a⟩]) (g a) R) : Guarded s body l (request c >>= g) R :=
  guarded_bind (guarded_request (R := fun a l' => l' = l ++ [⟨c, a⟩]) hc fun _ => rfl)
    fun a _ _ h => h ▸ hg a

theorem guarded_read {x : Except JsonError α} (hf : ∀ a, x = .ok a → Guarded s body l (f a) R) :
    Guarded s body l (read x >>= f) R := by
  cases x with
  | ok a =>
    rw [read_bind rfl]
    exact hf a rfl
  | error e => exact guarded_bind (guarded_throw (Q := fun _ _ => False) _) fun _ _ _ h => h.elim

theorem safe_request {c : Call} (hc : ∀ l, s.Allowed body l c) : Safe s body (request c) :=
  fun l => guarded_request (hc l) fun _ => trivial

theorem safe_ask {c : Call} {g : c.Answer → SessionM β} (hc : ∀ l, s.Allowed body l c)
    (hg : ∀ a, Safe s body (g a)) : Safe s body (request c >>= g) :=
  safe_bind (safe_request hc) hg

theorem safe_read {x : Except JsonError α} (hf : ∀ a, Safe s body (f a)) :
    Safe s body (read x >>= f) :=
  fun l => guarded_read fun a _ => hf a l

theorem safe_forEach {g : α → SessionM Unit} (hg : ∀ a, Safe s body (g a)) (xs : List α) :
    Safe s body (forEach g xs) := by
  induction xs with
  | nil => exact safe_pure _
  | cons x xs ih => exact safe_bind (hg x) fun _ => ih

/-! ## `Database` methods -/

theorem guarded_lift {q : DbProg α} (held : Bool) (h : Audited (s.dbAudit body) l q Q) :
    Guarded s body l (lift held q) Q := by
  suffices hlift : ∀ l₁, l <+: l₁ →
      Follows (s.dbAudit body).protocol l₁ q (fun a l' => l <+: l' ∧ Q a l') →
      Follows (s.audit body).protocol l₁ (lift held q).run
        fun r l' => l <+: l' ∧ ∀ a, r = .ok a → Q a l' from hlift l List.prefix_rfl h
  clear h
  intro l₁ hl₁ h
  induction q generalizing held l₁ with
  | ret a => exact ⟨h.1, fun b hb => by cases hb; exact h.2⟩
  | call c k ih =>
    refine follows_bindM.2 ?_
    have hrequest : Follows (s.audit body).protocol l₁ (request (.db c)).run fun r s' =>
        match r with
        | .ok a => Follows (s.audit body).protocol s' (lift (holds held c) (k a)).run
            fun r l' => l <+: l' ∧ ∀ a, r = .ok a → Q a l'
        | .error stop => l <+: s' ∧ ∀ a, (.error stop : Except Stop α) = .ok a → Q a s' :=
      follows_requestM.2 ⟨h.1, fun a => ih a _ _ (hl₁.trans (List.prefix_append _ _)) (h.2 a)⟩
    cases held with
    | false => cases c <;> exact hrequest
    | true =>
      cases c with
      -- a second lock ends the handler
      | lock => exact ⟨hl₁, fun a ha => by cases ha⟩
      | _ => exact hrequest

theorem guarded_db {q : DbProg α} (h : Audited (s.dbAudit body) l q Q) :
    Guarded s body l (db q) Q := guarded_lift false h

/-- The method makes only statements that the policy permits after `l`. -/
def Permitted (s : Session) (body : Json) (l : List Event) (q : DbProg α) : Prop :=
  CallsOnly (fun c : Database.Call => ∀ stmt, c = .query stmt → s.Permits body l stmt) q

theorem Permitted.audited {q : DbProg α} (h : Permitted s body l q) :
    Audited (s.dbAudit body) l q fun _ _ => True := by
  refine audited_of_callsOnly (h.imp fun c hc l' hl => ?_)
  cases c with
  | query stmt => exact (hc stmt rfl).mono hl
  | _ => trivial

theorem safe_db {q : DbProg α} (h : ∀ l, Permitted s body l q) : Safe s body (db q) :=
  fun l => guarded_db (h l).audited

/-- A method, and what is done with its answer. -/
theorem guarded_fetch {q : DbProg α} (h : Permitted s body l q)
    (hf : ∀ a l', l <+: l' → Guarded s body l' (f a) R) : Guarded s body l (db q >>= f) R :=
  guarded_bind (guarded_db h.audited) fun a l' hl _ => hf a l' hl

theorem safe_fetch {q : DbProg α} (h : ∀ l, Permitted s body l q) (hf : ∀ a, Safe s body (f a)) :
    Safe s body (db q >>= f) :=
  safe_bind (safe_db h) hf

section
variable {q : DbProg α} {stmt : Stmt}

theorem permitted_pure (a : α) : Permitted s body l (pure a : DbProg α) := trivial

theorem permitted_bind {g : α → DbProg β} (hq : Permitted s body l q)
    (hg : ∀ a, Permitted s body l (g a)) : Permitted s body l (q >>= g) :=
  callsOnly_bind hq hg

theorem permitted_ite {b : Prop} [Decidable b] {q' : DbProg α} (hq : Permitted s body l q)
    (hq' : Permitted s body l q') : Permitted s body l (if b then q else q') :=
  callsOnly_ite hq hq'

/-- Any call but a query -/
theorem permitted_request {c : Database.Call} (hc : ∀ stmt, c ≠ .query stmt) :
    Permitted s body l (Database.request c) :=
  ⟨fun stmt h => absurd h (hc stmt), fun _ => trivial⟩

theorem permitted_query (h : s.Permits body l stmt) : Permitted s body l (mysqlQuery stmt) :=
  ⟨fun _ hc => by cases hc; exact h, fun _ => trivial⟩

theorem permitted_locked (hq : Permitted s body l q) : Permitted s body l (locked q) :=
  permitted_bind (permitted_request fun _ => nofun) fun _ => permitted_bind hq fun _ =>
    permitted_bind (permitted_request fun _ => nofun) fun _ => permitted_pure _

/-- A method that stamps its row with the time -/
theorem permitted_stamped {g : Int → DbProg α} (hg : ∀ now, Permitted s body l (g now)) :
    Permitted s body l (locked (getCurrentTimestamp >>= g)) :=
  permitted_locked (permitted_bind (permitted_request fun _ => nofun) hg)

theorem permitted_select (h : s.Permits body l stmt) : Permitted s body l (select stmt) :=
  permitted_bind (permitted_query h) fun _ => permitted_ite (permitted_pure _)
    (permitted_request fun _ => nofun)

theorem permitted_selectFirst (h : s.Permits body l stmt) :
    Permitted s body l (selectFirst stmt) :=
  permitted_bind (permitted_select h) fun _ => permitted_pure _

/-- A method that answers from the rows of one SELECT -/
theorem permitted_rows {g : Option (List Row) → α} (h : s.Permits body l stmt) :
    Permitted s body l (locked (select stmt >>= fun rows => pure (g rows))) :=
  permitted_locked (permitted_bind (permitted_select h) fun _ => permitted_pure _)

/-- A method that answers from the first row of one SELECT -/
theorem permitted_row {g : Option Row → α} (h : s.Permits body l stmt) :
    Permitted s body l (locked (selectFirst stmt >>= fun row => pure (g row))) :=
  permitted_locked (permitted_bind (permitted_selectFirst h) fun _ => permitted_pure _)

theorem permitted_createTables (ts : List Table) : Permitted s body l (createTables ts) := by
  induction ts with
  | nil => exact permitted_pure _
  | cons t ts ih =>
    exact permitted_bind (permitted_query trivial) fun _ => permitted_ite ih (permitted_pure _)

theorem permitted_ensureConnection : Permitted s body l ensureConnection := by
  have hconnect (connection : Bool) : Permitted s body l (connect connection) :=
    permitted_ite (permitted_pure _) (permitted_bind (permitted_request fun _ => nofun) fun _ =>
      permitted_ite (permitted_pure _) (permitted_locked (permitted_createTables _)))
  refine permitted_bind (permitted_request fun _ => nofun) fun _ => permitted_ite
    (permitted_pure _) (permitted_bind (permitted_request fun _ => nofun) fun _ => permitted_ite
      (permitted_pure _) (permitted_bind (permitted_request fun _ => nofun) fun _ => ?_))
  exact permitted_bind (permitted_request fun _ => nofun) fun _ => permitted_ite
    (permitted_pure _) (hconnect _)

/-- A method that looks after the connection first -/
theorem permitted_connected {none : α} (hq : Permitted s body l q) :
    Permitted s body l (ensureConnection >>= fun ok => if !ok then pure none else q) :=
  permitted_bind permitted_ensureConnection fun _ => permitted_ite (permitted_pure _) hq

end

/-! ## What a SELECT has shown -/

/-- The answer is made of the first row, if there was one. -/
def Shown (stmt : Stmt) (g : Option Row → α) (a : α) (l : List Event) : Prop :=
  ∃ row, a = g row ∧ ∀ row', row = some row' → AnsweredFirst l stmt row'

section
variable {stmt : Stmt}

theorem Shown.mono {g : Option Row → α} {a : α} {l' : List Event} (hl : l <+: l')
    (h : Shown stmt g a l) : Shown stmt g a l' :=
  h.imp fun _ h => ⟨h.1, fun row' hrow => (h.2 row' hrow).mono hl⟩

theorem audited_select (h : s.Permits body l stmt) :
    Audited (s.dbAudit body) l (select stmt) fun r l' =>
      ∀ rows, r = some rows → Answered l' stmt rows := by
  refine audited_call h fun ok => ?_
  cases ok with
  | false => exact audited_ret fun _ hr => by cases hr
  | true =>
    refine audited_perform trivial fun a rows hrows => ?_
    subst hrows
    exact ⟨l, [], by simp [Session.dbAudit]⟩

theorem audited_selectFirst (h : s.Permits body l stmt) :
    Audited (s.dbAudit body) l (selectFirst stmt) fun r l' =>
      ∀ row, r = some row → AnsweredFirst l' stmt row := by
  refine audited_bind (audited_select h) fun r l' _ hr => audited_ret fun row hrow => ?_
  cases r with
  | none => cases hrow
  | some rows =>
    cases rows with
    | nil => cases hrow
    | cons first rows =>
      cases hrow
      exact ⟨rows, hr _ rfl⟩

/-- What stays true is true under the lock. -/
theorem audited_locked {q : DbProg α} (hq : ∀ l', l <+: l' → Audited (s.dbAudit body) l' q Q)
    (hQ : ∀ a l' l'', l' <+: l'' → Q a l' → Q a l'') :
    Audited (s.dbAudit body) l (locked q) Q := by
  have hlock (l : List Event) : Audited (s.dbAudit body) l lockMutex fun _ _ => True :=
    audited_perform trivial fun _ => trivial
  have hunlock (l : List Event) : Audited (s.dbAudit body) l unlockMutex fun _ _ => True :=
    audited_perform trivial fun _ => trivial
  refine audited_bind (hlock l) fun _ l' hl _ => ?_
  refine audited_bind (hq l' hl) fun a l'' _ ha => ?_
  exact audited_bind (hunlock l'') fun _ _ hl' _ => audited_ret (hQ a _ _ hl' ha)

theorem audited_rows {g : Option (List Row) → α} (h : s.Permits body l stmt) :
    Audited (s.dbAudit body) l (locked (select stmt >>= fun rows => pure (g rows))) fun a l' =>
      ∃ rows, a = g rows ∧ ∀ rows', rows = some rows' → Answered l' stmt rows' := by
  refine audited_locked (fun l' hl => ?_) ?_
  · exact audited_bind (audited_select (h.mono hl)) fun r _ _ hr => audited_ret ⟨r, rfl, hr⟩
  · rintro a l' l'' hl ⟨rows, ha, hrows⟩
    exact ⟨rows, ha, fun rows' hrows' => (hrows rows' hrows').mono hl⟩

theorem audited_row {g : Option Row → α} (h : s.Permits body l stmt) :
    Audited (s.dbAudit body) l (locked (selectFirst stmt >>= fun row => pure (g row)))
      (Shown stmt g) :=
  audited_locked (fun _ hl => audited_bind (audited_selectFirst (h.mono hl))
    fun r _ _ hr => audited_ret ⟨r, rfl, hr⟩) fun _ _ _ hl h => h.mono hl

/-- Without a connection the answer is that for no row. -/
theorem guarded_connectedRow {g : Option Row → α} (h : s.Permits body l stmt) :
    Guarded s body l (db (locked (ensureConnection >>= fun ok =>
      if !ok then pure (g none) else selectFirst stmt >>= fun row => pure (g row))))
      (Shown stmt g) := by
  refine guarded_db (audited_locked (fun l' hl => ?_) fun _ _ _ hl h => h.mono hl)
  refine audited_bind permitted_ensureConnection.audited fun ok l'' hl' _ => ?_
  refine audited_ite (fun _ => audited_ret ⟨none, rfl, fun _ h => by cases h⟩) fun _ => ?_
  exact audited_bind (audited_selectFirst ((h.mono hl).mono hl')) fun r _ _ hr =>
    audited_ret ⟨r, rfl, hr⟩

end

/-- A method that inserts a row stamped with the time -/
theorem audited_saving {stmt : Int → Stmt} {g : Nat → Int → α}
    (h : ∀ now, s.Permits body l (stmt now)) :
    Audited (s.dbAudit body) l (locked do
      let now ← getCurrentTimestamp
      if !(← mysqlQuery (stmt now)) then return none
      let id ← getLastInsertId
      return some (g id now)) fun r l' =>
        r.isSome = true → ∃ now, (⟨.db (.query (stmt now)), true⟩ : Event) ∈ l' := by
  refine audited_locked (fun l₁ hl => ?_) fun _ _ _ hl h hr =>
    (h hr).imp fun _ hmem => hl.subset hmem
  refine audited_call trivial fun now => audited_call ?_ fun ok => ?_
  · exact ((h now).mono hl).mono (List.prefix_append _ _)
  cases ok with
  | false => exact audited_ret fun hr => by cases hr
  | true =>
    refine audited_call trivial fun id => audited_ret fun _ => ⟨now, ?_⟩
    exact List.mem_append_left _ (List.mem_append_right _ (List.mem_singleton.2 rfl))

/-- A test of the first row -/
theorem Shown.any {stmt : Stmt} {t : Row → Bool} {b : Bool}
    (h : Shown stmt (fun row => row.any t) b l) (hb : b = true) :
    ∃ row, AnsweredFirst l stmt row ∧ t row = true := by
  obtain ⟨row, rfl, hrow⟩ := h
  cases row with
  | none => cases hb
  | some row => exact ⟨row, hrow row rfl, hb⟩

end ChatApp.Session
