import Kippu.Payments.Runs

/-!
# Sales were paid for

A hold keeps the price and asset it was placed at, a hosted checkout its hold and
what it asks for, and a task the rows it read; so the answer that `takePlace`
trusted still names the hold, its price and its asset when the sale is recorded,
and ever after.
-/

namespace Kippu.Payments

variable {verify : String → String → Option VerifiedWebhook} {s s' : State}

-- ---------------------------------------------------------------------------
-- What never changes
-- ---------------------------------------------------------------------------

def holdTerms (h : Hold) : Option ℕ × Option Asset := (h.price, h.asset)

def hostedTerms (k : Hosted) : HoldId × ProviderCheckoutId × ℕ × Asset :=
  (k.hold, k.providerCheckout, k.amount, k.asset)

def KeepsTerms (f : V → W) (t t' : Conc.Table V) : Prop :=
  ∀ i v, t.get i = some v → ∃ v', t'.get i = some v' ∧ f v' = f v

theorem KeepsTerms.refl (f : V → W) (t : Conc.Table V) : KeepsTerms f t t :=
  fun _ v hv => ⟨v, hv, rfl⟩

theorem KeepsTerms.trans {f : V → W} {t t' t'' : Conc.Table V} (h : KeepsTerms f t t')
    (h' : KeepsTerms f t' t'') : KeepsTerms f t t'' := by
  intro i v hv
  obtain ⟨v', hv', hf⟩ := h i v hv
  obtain ⟨v'', hv'', hf'⟩ := h' i v' hv'
  exact ⟨v'', hv'', hf'.trans hf⟩

theorem keepsTerms_update {f : V → W} {t : Conc.Table V} {g : V → V} (hg : ∀ v, f (g v) = f v) :
    KeepsTerms f t (t.update i g) := by
  intro j v hv
  by_cases hij : j = i
  · subst hij
    exact ⟨g v, by simp [hv], hg v⟩
  · exact ⟨v, by rw [Conc.Table.get_update_ne _ hij, hv], rfl⟩

theorem keepsTerms_set {f : V → W} {t : Conc.Table V} (hnone : t.get i = none) :
    KeepsTerms f t (t.set i v) := by
  intro j w hw
  have hij : j ≠ i := by
    rintro rfl
    rw [hnone] at hw
    cases hw
  exact ⟨w, by rw [Conc.Table.get_set_ne _ hij, hw], rfl⟩

/-- What the rest of a run cannot take back. -/
structure Keeps (s s' : State) : Prop where
  holds : KeepsTerms holdTerms s.db.holds s'.db.holds
  hosted : KeepsTerms hostedTerms s.db.hosted s'.db.hosted
  retrieved : ∀ answer ∈ s.retrieved, answer ∈ s'.retrieved

theorem Keeps.refl (s : State) : Keeps s s :=
  ⟨.refl _ _, .refl _ _, fun _ h => h⟩

theorem Keeps.trans (h : Keeps s s') (h' : Keeps s' s'') : Keeps s s'' :=
  ⟨h.holds.trans h'.holds, h.hosted.trans h'.hosted, fun _ ha => h'.retrieved _ (h.retrieved _ ha)⟩

theorem HoldChange.terms (h : HoldChange f) (hold : Hold) :
    holdTerms (f hold) = holdTerms hold := by
  cases h <;> rfl

theorem keepsTerms_takePlace_holds {hold : Hold} {id : ℕ} :
    KeepsTerms holdTerms db.holds
      (takePlace db hosted hold remote holder at_ id outcome).holds := by
  have hgive : ∀ h : Hold, holdTerms (if h.status = .outstanding then h.giveUp at_ else h) =
      holdTerms h := by
    intro h
    split <;> rfl
  cases outcome with
  | handled => exact .refl _ _
  | amountMismatch => exact keepsTerms_update hgive
  | eventClosed => exact keepsTerms_update hgive
  | placeGone => exact .refl _ _
  | taken => exact keepsTerms_update fun _ => rfl

theorem takePlace_hosted {hold : Hold} {id : ℕ} :
    (takePlace db hosted hold remote holder at_ id outcome).hosted =
      (setStatus db hosted.id remote.status).hosted := by
  cases outcome <;> rfl

theorem keepsTerms_setStatus {id : HostedId} :
    KeepsTerms hostedTerms db.hosted (setStatus db id status).hosted :=
  keepsTerms_update fun _ => rfl

theorem Step.keeps [Profile] (h : Step verify s s') : Keeps s s' := by
  cases h with
  | webhook body signature =>
    unfold State.paymentWebhook
    split
    · exact .refl s
    · exact ⟨.refl _ _, .refl _ _, fun _ h => h⟩
  | held target at_ hnone hterms => exact ⟨keepsTerms_set hnone, .refl _ _, fun _ h => h⟩
  | holdChanged hchange => exact ⟨keepsTerms_update hchange.terms, .refl _ _, fun _ h => h⟩
  | statusRecorded id status => exact ⟨.refl _ _, keepsTerms_setStatus, fun _ h => h⟩
  | retrieved remote htask =>
    exact ⟨.refl _ _, .refl _ _, fun _ h => List.mem_cons_of_mem _ h⟩
  | recorded htask => exact ⟨.refl _ _, keepsTerms_setStatus, fun _ h => h⟩
  | placed free holder at_ id htask hhold hsale hrefund houtcome =>
    refine ⟨keepsTerms_takePlace_holds, ?_, fun _ h => h⟩
    simp only [State.put]
    rw [takePlace_hosted]
    exact keepsTerms_setStatus
  | payRetrieved remote htask =>
    exact ⟨.refl _ _, keepsTerms_setStatus, fun _ h => List.mem_cons_of_mem _ h⟩
  | payInserted url expiresAt htask hnone hother =>
    exact ⟨.refl _ _, keepsTerms_set hnone, fun _ h => h⟩
  | _ => exact ⟨.refl _ _, .refl _ _, fun _ h => h⟩

theorem Steps.keeps [Profile] (h : Steps verify s s') : Keeps s s' := by
  induction h with
  | refl => exact .refl s
  | step _ hstep ih => exact ih.trans hstep.keeps

-- ---------------------------------------------------------------------------
-- The invariant
-- ---------------------------------------------------------------------------

def Priced (s : State) (i : HoldId) (price : ℕ) (asset : Asset) : Prop :=
  ∃ h, s.db.holds.get i = some h ∧ holdTerms h = (some price, some asset)

def Recorded (s : State) (hosted : HostedRow) : Prop :=
  ∃ k, s.db.hosted.get hosted.id = some k ∧ hostedTerms k = hostedTerms hosted.toHosted

/-- The provider answered that a hosted checkout's hold was paid, as it was priced. -/
structure Paid (s : State) (k : Hosted) (remote : HostedCheckout) : Prop where
  answered : (k.providerCheckout, remote) ∈ s.retrieved
  status : remote.status = .paid
  hold : remote.holdId = k.hold
  amount : remote.amount = k.amount
  asset : remote.asset = k.asset

def PointOk (s : State) : Point → Prop
  | .retrieve hosted => Recorded s hosted
  | .place hosted remote => Recorded s hosted ∧
    (hosted.providerCheckout, remote) ∈ s.retrieved ∧ remote.holdId = hosted.hold ∧
      remote.status = .paid
  | .payOpen _ hold price asset => Priced s hold price asset
  | .payCreate hold price asset => Priced s hold price asset
  | .payInsert hold price asset _ => Priced s hold price asset
  | _ => True

structure Inv (s : State) : Prop where
  hosted : ∀ i k, s.db.hosted.get i = some k → Priced s k.hold k.amount k.asset
  sales : ∀ i sale, s.db.sales.get i = some sale → ∃ k remote,
    s.db.hosted.get sale.hosted = some k ∧ k.hold = sale.hold ∧ Paid s k remote
  tasks : ∀ t task, s.tasks t = some task → PointOk s task.point

theorem Priced.keep (h : Priced s i price asset) (hk : Keeps s s') : Priced s' i price asset := by
  obtain ⟨hold, hhold, hterms⟩ := h
  obtain ⟨hold', hhold', hsame⟩ := hk.holds i hold hhold
  exact ⟨hold', hhold', hsame.trans hterms⟩

theorem Recorded.keep (h : Recorded s hosted) (hk : Keeps s s') : Recorded s' hosted := by
  obtain ⟨k, hget, hterms⟩ := h
  obtain ⟨k', hget', hsame⟩ := hk.hosted _ k hget
  exact ⟨k', hget', hsame.trans hterms⟩

theorem PointOk.keep (h : PointOk s point) (hk : Keeps s s') : PointOk s' point := by
  cases point with
  | retrieve => exact Recorded.keep h hk
  | place => exact ⟨h.1.keep hk, hk.retrieved _ h.2.1, h.2.2⟩
  | payOpen => exact Priced.keep h hk
  | payCreate => exact Priced.keep h hk
  | payInsert => exact Priced.keep h hk
  | _ => trivial

theorem Inv.sale_keep (h : Inv s) (hk : Keeps s s') (hsale : s.db.sales.get i = some sale) :
    ∃ k remote, s'.db.hosted.get sale.hosted = some k ∧ k.hold = sale.hold ∧ Paid s' k remote := by
  obtain ⟨k, remote, hget, hhold, hpaid⟩ := h.sales i sale hsale
  obtain ⟨k', hget', hterms⟩ := hk.hosted _ k hget
  simp only [hostedTerms, Prod.mk.injEq] at hterms
  obtain ⟨h1, h2, h3, h4⟩ := hterms
  refine ⟨k', remote, hget', h1.trans hhold, ?_⟩
  exact ⟨by rw [h2]; exact hk.retrieved _ hpaid.answered, hpaid.status, hpaid.hold.trans h1.symm,
    hpaid.amount.trans h3.symm, hpaid.asset.trans h4.symm⟩

theorem Inv.hosted_keep (h : Inv s) (hk : Keeps s s')
    (hback : ∀ i k', s'.db.hosted.get i = some k' →
      (∃ k, s.db.hosted.get i = some k ∧ hostedTerms k' = hostedTerms k) ∨
        Priced s k'.hold k'.amount k'.asset) :
    ∀ i k, s'.db.hosted.get i = some k → Priced s' k.hold k.amount k.asset := by
  intro i k' hget'
  rcases hback i k' hget' with ⟨k, hget, hterms⟩ | hpriced
  · simp only [hostedTerms, Prod.mk.injEq] at hterms
    obtain ⟨h1, -, h3, h4⟩ := hterms
    rw [h1, h3, h4]
    exact (h.hosted i k hget).keep hk
  · exact hpriced.keep hk

theorem setStatus_back {id : HostedId} (hget : (setStatus db id status).hosted.get i = some k') :
    ∃ k, db.hosted.get i = some k ∧ hostedTerms k' = hostedTerms k := by
  obtain ⟨k, hk, ⟨-, rfl⟩ | ⟨-, rfl⟩⟩ := Conc.Table.get_update_some _ hget
  · exact ⟨k, hk, rfl⟩
  · exact ⟨k', hk, rfl⟩

/-- A sale after `takePlace` is an older one, or that of a hosted checkout whose amount and asset
the provider answered. -/
theorem takePlace_sale {hold : Hold} {id : ℕ}
    (houtcome : placeOutcome db hosted hold remote free = outcome)
    (hget : (takePlace db hosted hold remote holder at_ id outcome).sales.get i = some sale) :
    db.sales.get i = some sale ∨
      (sale.hosted = hosted.id ∧ sale.hold = hosted.hold ∧ remote.amount = hosted.amount ∧
        remote.asset = hosted.asset) := by
  cases outcome with
  | handled => exact Or.inl hget
  | amountMismatch => exact Or.inl hget
  | eventClosed => exact Or.inl hget
  | placeGone => exact Or.inl hget
  | taken =>
    have hterms : ¬(remote.amount ≠ hosted.amount ∨ remote.asset ≠ hosted.asset) := by
      intro hne
      unfold placeOutcome at houtcome
      split at houtcome
      · cases houtcome
      · cases houtcome
    simp only [takePlace, addSale, Conc.Table.get_set] at hget
    split at hget
    next =>
      cases hget
      simp only [not_or, not_not] at hterms
      exact Or.inr ⟨rfl, rfl, hterms.1, hterms.2⟩
    next => exact Or.inl hget

theorem Inv.tasks_put (h : Inv s) (hk : Keeps s s')
    (htasks : s'.tasks = Function.update s.tasks t task)
    (hok : ∀ next, task = some next → PointOk s' next.point) :
    ∀ t task, s'.tasks t = some task → PointOk s' task.point := by
  intro t' task' htask'
  rw [htasks] at htask'
  by_cases ht : t' = t
  · subst ht
    rw [Function.update_self] at htask'
    exact hok task' htask'
  · rw [Function.update_of_ne ht] at htask'
    exact (h.tasks t' task' htask').keep hk

theorem Inv.tasks_same (h : Inv s) (hk : Keeps s s') (htasks : s'.tasks = s.tasks) :
    ∀ t task, s'.tasks t = some task → PointOk s' task.point := by
  intro t task htask
  rw [htasks] at htask
  exact (h.tasks t task htask).keep hk

theorem Inv.sales_keep (h : Inv s) (hk : Keeps s s')
    (hback : ∀ i sale', s'.db.sales.get i = some sale' → ∃ sale, s.db.sales.get i = some sale ∧
      sale'.hosted = sale.hosted ∧ sale'.hold = sale.hold) :
    ∀ i sale, s'.db.sales.get i = some sale → ∃ k remote,
      s'.db.hosted.get sale.hosted = some k ∧ k.hold = sale.hold ∧ Paid s' k remote := by
  intro i sale' hget
  obtain ⟨sale, hsale, hhosted, hhold⟩ := hback i sale' hget
  rw [hhosted, hhold]
  exact h.sale_keep hk hsale

theorem Inv.quiet (h : Inv s) (hk : Keeps s s')
    (hhosted : ∀ i k', s'.db.hosted.get i = some k' →
      ∃ k, s.db.hosted.get i = some k ∧ hostedTerms k' = hostedTerms k)
    (hsales : ∀ i sale', s'.db.sales.get i = some sale' → ∃ sale, s.db.sales.get i = some sale ∧
      sale'.hosted = sale.hosted ∧ sale'.hold = sale.hold)
    (htasks : ∀ t task, s'.tasks t = some task → PointOk s' task.point) : Inv s' :=
  ⟨h.hosted_keep hk fun i k' hget => Or.inl (hhosted i k' hget), h.sales_keep hk hsales, htasks⟩

theorem hosted_same (h : s'.db.hosted = s.db.hosted) (i : HostedId) (k' : Hosted)
    (hget : s'.db.hosted.get i = some k') :
    ∃ k, s.db.hosted.get i = some k ∧ hostedTerms k' = hostedTerms k :=
  ⟨k', by rw [← h, hget], rfl⟩

theorem sales_same (h : s'.db.sales = s.db.sales) (i : SaleId) (sale' : Sale)
    (hget : s'.db.sales.get i = some sale') : ∃ sale, s.db.sales.get i = some sale ∧
      sale'.hosted = sale.hosted ∧ sale'.hold = sale.hold :=
  ⟨sale', by rw [← h, hget], rfl, rfl⟩

theorem sales_completed {outcome : SaleOutcome} {sales : Conc.Table Sale}
    (hget : (sales.update i outcome.apply).get j = some sale') : ∃ sale,
      sales.get j = some sale ∧ sale'.hosted = sale.hosted ∧ sale'.hold = sale.hold := by
  obtain ⟨sale, hsale, ⟨-, rfl⟩ | ⟨-, rfl⟩⟩ := Conc.Table.get_update_some _ hget
  · exact ⟨sale, hsale, by cases outcome <;> rfl, by cases outcome <;> rfl⟩
  · exact ⟨sale', hsale, rfl, rfl⟩

theorem priced_of_payable {row : HoldRow} (hrow : holdRow i s.db = some row)
    (h : payable row at_ = .ok (price, asset)) : Priced s i price asset := by
  simp only [holdRow, bind, Option.bind_eq_some_iff] at hrow
  obtain ⟨hold, hhold, c, -, hrow⟩ := hrow
  cases hrow
  refine ⟨hold, hhold, ?_⟩
  unfold payable at h
  split at h
  · cases h
  split at h
  · cases h
  split at h
  · cases h
  split at h
  next hprice hasset =>
    cases h
    exact Prod.ext hprice hasset
  next => cases h

theorem pointOk_afterRetrieve (hrecorded : Recorded s hosted)
    (hanswer : (hosted.providerCheckout, remote) ∈ s.retrieved) :
    PointOk s (afterRetrieve hosted remote) := by
  unfold afterRetrieve
  split
  · trivial
  · split
    · trivial
    next hhold hstatus => exact ⟨hrecorded, hanswer, not_not.mp hhold, not_not.mp hstatus⟩

theorem pointOk_afterPayRetrieve {hold : HoldId} (h : Priced s hold price asset) :
    PointOk s (afterPayRetrieve hosted hold price asset remote) := by
  unfold afterPayRetrieve
  split
  · trivial
  · trivial
  · exact h

-- ---------------------------------------------------------------------------
-- Steps
-- ---------------------------------------------------------------------------

variable [Profile]

omit [Profile] in
/-- A place taken is one the provider said is paid, at the price of its hold. -/
theorem Inv.placed {hosted : HostedRow} {hold : Hold} (h : Inv s) (hk : Keeps s s')
    (hpoint : PointOk s (.place hosted remote))
    (hdb : s'.db = takePlace s.db hosted hold remote holder at_ n outcome)
    (houtcome : placeOutcome s.db hosted hold remote free = outcome)
    (htasks : ∀ t task, s'.tasks t = some task → PointOk s' task.point) : Inv s' := by
  refine ⟨h.hosted_keep hk ?_, ?_, htasks⟩
  · intro i k' hget
    rw [hdb, takePlace_hosted] at hget
    exact Or.inl (setStatus_back hget)
  · intro i sale hget
    rw [hdb] at hget
    rcases takePlace_sale houtcome hget with hold' | ⟨hhosted, hhold, hamount, hasset⟩
    · exact h.sale_keep hk hold'
    · obtain ⟨hrecorded, hanswer, hholdId, hstatus⟩ := hpoint
      obtain ⟨k, hk', hterms⟩ := hrecorded.keep hk
      simp only [hostedTerms, Prod.mk.injEq] at hterms
      obtain ⟨h1, h2, h3, h4⟩ := hterms
      refine ⟨k, remote, by rw [hhosted, hk'], h1.trans hhold.symm, ?_⟩
      exact ⟨by rw [h2]; exact hk.retrieved _ hanswer, hstatus, hholdId.trans h1.symm,
        hamount.trans h3.symm, hasset.trans h4.symm⟩

theorem Inv.step (h : Inv s) (hstep : Step verify s s') : Inv s' := by
  have hk := hstep.keeps
  cases hstep with
  | webhook body signature =>
    unfold State.paymentWebhook at hk ⊢
    split at hk
    · exact h
    · refine h.quiet hk (hosted_same rfl) (sales_same rfl) (h.tasks_put hk rfl ?_)
      rintro _ ⟨⟩
      trivial
  | priced | saleAsset | salesClosed =>
    exact h.quiet hk (hosted_same rfl) (sales_same rfl) (h.tasks_same hk rfl)
  | held target at_ hnone hterms =>
    exact h.quiet hk (hosted_same rfl) (sales_same rfl) (h.tasks_same hk rfl)
  | holdChanged hchange =>
    exact h.quiet hk (hosted_same rfl) (sales_same rfl) (h.tasks_same hk rfl)
  | saleCompleted outcome =>
    exact h.quiet hk (hosted_same rfl) (fun _ _ hget => sales_completed hget)
      (h.tasks_same hk rfl)
  | reconcile checkout =>
    refine h.quiet hk (hosted_same rfl) (sales_same rfl) (h.tasks_put hk rfl ?_)
    rintro _ ⟨⟩
    trivial
  | statusRecorded id status =>
    exact h.quiet hk (fun _ _ => setStatus_back) (sales_same rfl) (h.tasks_same hk rfl)
  | selected htask hselects =>
    refine h.quiet hk (hosted_same rfl) (sales_same rfl) (h.tasks_put hk rfl ?_)
    rintro _ ⟨⟩
    trivial
  | next htask =>
    refine h.quiet hk (hosted_same rfl) (sales_same rfl) (h.tasks_put hk rfl ?_)
    rintro _ ⟨⟩
    trivial
  | lookup htask hget hcheckout =>
    refine h.quiet hk (hosted_same rfl) (sales_same rfl) (h.tasks_put hk rfl ?_)
    rintro _ ⟨⟩
    exact ⟨_, hget, rfl⟩
  | unknown htask =>
    refine h.quiet hk (hosted_same rfl) (sales_same rfl) (h.tasks_put hk rfl ?_)
    rintro _ ⟨⟩
    trivial
  | retrieved remote htask =>
    refine h.quiet hk (hosted_same rfl) (sales_same rfl) (h.tasks_put hk rfl ?_)
    rintro _ ⟨⟩
    exact pointOk_afterRetrieve (Recorded.keep (h.tasks _ _ htask) hk) (List.mem_cons_self ..)
  | recorded htask =>
    refine h.quiet hk (fun _ _ => setStatus_back) (sales_same rfl) (h.tasks_put hk rfl ?_)
    rintro _ ⟨⟩
    trivial
  | placed free holder at_ id htask hhold hsale hrefund houtcome =>
    refine h.placed hk (h.tasks _ _ htask) rfl houtcome (h.tasks_put hk rfl ?_)
    rintro _ ⟨⟩
    split <;> trivial
  | issued outcome htask =>
    refine h.quiet hk (hosted_same rfl) (fun _ _ hget => sales_completed hget)
      (h.tasks_put hk rfl ?_)
    rintro _ ⟨⟩
    trivial
  | payBegun at_ hrow hpayable =>
    refine h.quiet hk (hosted_same rfl) (sales_same rfl) (h.tasks_put hk rfl ?_)
    rintro _ ⟨⟩
    exact (priced_of_payable hrow hpayable).keep hk
  | payBegunOpen at_ hrow hpayable hget hopen =>
    refine h.quiet hk (hosted_same rfl) (sales_same rfl) (h.tasks_put hk rfl ?_)
    rintro _ ⟨⟩
    exact (priced_of_payable hrow hpayable).keep hk
  | payRetrieved remote htask =>
    refine h.quiet hk (fun _ _ => setStatus_back) (sales_same rfl) (h.tasks_put hk rfl ?_)
    rintro _ ⟨⟩
    exact pointOk_afterPayRetrieve (Priced.keep (h.tasks _ _ htask) hk)
  | payCreated checkout htask =>
    refine h.quiet hk (hosted_same rfl) (sales_same rfl) (h.tasks_put hk rfl ?_)
    rintro _ ⟨⟩
    exact Priced.keep (h.tasks _ _ htask) hk
  | payInserted url expiresAt htask hnone hother =>
    refine ⟨h.hosted_keep hk ?_, h.sales_keep hk (sales_same rfl),
      h.tasks_put hk rfl (by rintro _ ⟨⟩)⟩
    intro i k' hget
    simp only [State.put, Conc.Table.get_set] at hget
    split at hget
    · cases hget
      exact Or.inr (h.tasks _ _ htask)
    · exact Or.inl ⟨k', hget, rfl⟩
  | ends htask =>
    exact h.quiet hk (hosted_same rfl) (sales_same rfl) (h.tasks_put hk rfl (by rintro _ ⟨⟩))

theorem Steps.inv {s₀ : State} (h : Steps verify s₀ s) (hinit : s₀.Initial) : Inv s := by
  induction h with
  | refl =>
    refine ⟨fun i k hget => ?_, fun i sale hget => ?_, fun t task htask => ?_⟩
    · rw [hinit.hosted] at hget
      cases hget
    · rw [hinit.sales] at hget
      cases hget
    · rw [hinit.tasks] at htask
      cases htask
  | step _ hstep ih => exact ih.step hstep

-- ---------------------------------------------------------------------------
-- Webhooks
-- ---------------------------------------------------------------------------

omit [Profile] in
/-- Of a webhook's content, what matters is which recorded checkouts it names. -/
theorem selects_congr {named named' : VerifiedWebhook}
    (h : ∀ i k, db.hosted.get i = some k → names named k = names named' k) :
    Selects db named checkouts ↔ Selects db named' checkouts := by
  have hselect : db.hosted.select (names named) = db.hosted.select (names named') := by
    ext i
    simp only [Conc.Table.mem_select]
    constructor
    · rintro ⟨k, hget, hnames⟩
      exact ⟨k, hget, by rw [← h i k hget, hnames]⟩
    · rintro ⟨k, hget, hnames⟩
      exact ⟨k, hget, by rw [h i k hget, hnames]⟩
  unfold Selects
  rw [hselect]

omit [Profile] in
theorem recorded_of_selects (h : Selects db named checkouts) (hmem : checkout ∈ checkouts) :
    ∃ i k, db.hosted.get i = some k ∧ k.providerCheckout = checkout ∧ names named k = true := by
  obtain ⟨ids, -, hids, rfl⟩ := h
  obtain ⟨k, hk, rfl⟩ := List.mem_map.mp hmem
  obtain ⟨i, hi, hget⟩ := List.mem_filterMap.mp hk
  have hselected : i ∈ db.hosted.select (names named) := by
    rw [← hids]
    exact List.mem_toFinset.mpr hi
  obtain ⟨k', hget', hnames⟩ := (Conc.Table.mem_select _).mp hselected
  rw [hget] at hget'
  cases hget'
  exact ⟨i, k, hget, rfl, hnames⟩

/-- In every run: a sale's hosted checkout was retrieved, and the provider answered that it was
paid, for the sale's hold, with the price and asset that the hold was placed at, which never
change; a webhook that does not verify changes nothing; and one that does only has a task select
recorded checkouts to retrieve, whatever else it says. -/
theorem sale_was_paid {s₀ : State} (h : Steps verify s₀ s) (hinit : s₀.Initial) :
    (∀ i sale, s.db.sales.get i = some sale → ∃ k remote hold,
      s.db.hosted.get sale.hosted = some k ∧ k.hold = sale.hold ∧
      (k.providerCheckout, remote) ∈ s.retrieved ∧ remote.status = .paid ∧
      remote.holdId = sale.hold ∧ s.db.holds.get sale.hold = some hold ∧
      hold.price = some remote.amount ∧ hold.asset = some remote.asset) ∧
    (∀ i hold, s.db.holds.get i = some hold → ∀ s', Steps verify s s' →
      ∃ hold', s'.db.holds.get i = some hold' ∧ hold'.price = hold.price ∧
        hold'.asset = hold.asset) ∧
    s.paymentWebhook none = (s, false) ∧
    (∀ named named' checkouts, Selects s.db named checkouts →
      (∀ checkout ∈ checkouts, ∃ i k, s.db.hosted.get i = some k ∧
        k.providerCheckout = checkout ∧ names named k = true) ∧
      ((∀ i k, s.db.hosted.get i = some k → names named k = names named' k) →
        Selects s.db named' checkouts)) := by
  refine ⟨?_, ?_, rfl, ?_⟩
  · intro i sale hsale
    obtain ⟨k, remote, hget, hhold, hpaid⟩ := (h.inv hinit).sales i sale hsale
    obtain ⟨hold, hholdGet, hterms⟩ := (h.inv hinit).hosted _ k hget
    simp only [holdTerms, Prod.mk.injEq] at hterms
    refine ⟨k, remote, hold, hget, hhold, hpaid.answered, hpaid.status, hpaid.hold.trans hhold,
      by rw [← hhold, hholdGet], ?_, ?_⟩
    · rw [hterms.1, hpaid.amount]
    · rw [hterms.2, hpaid.asset]
  · intro i hold hget s' hrun
    obtain ⟨hold', hget', hterms⟩ := hrun.keeps.holds i hold hget
    simp only [holdTerms, Prod.mk.injEq] at hterms
    exact ⟨hold', hget', hterms.1, hterms.2⟩
  · intro named named' checkouts hselects
    refine ⟨fun checkout hmem => recorded_of_selects hselects hmem, ?_⟩
    intro hsame
    exact (selects_congr hsame).mp hselects

-- ---------------------------------------------------------------------------
-- One sale
-- ---------------------------------------------------------------------------

def oneClass : Db :=
  { Db.empty with
    classes := Conc.Table.empty.set 1
      { event := 1, provenance := .purchased, price := some 25, quota := none }
    saleAssets := Conc.Table.empty.set 1 0
    checkouts := Conc.Table.empty.set 1
      { token := 1, event := 1, zone := 1, classId := 1, position := none, createdAt := 0,
        holderAccount := some 9, linkConfirmed := true } }

def oneTarget : HoldTarget where
  event := 1
  zone := 1
  classId := 1
  position := none
  checkoutId := 1

omit [Profile] in
/-- The webhook names the provider's checkout 5. -/
theorem sale_was_paid_one :
    ∃ s : State, (s.db.sales.get 1).isSome ∧ ∃ k remote hold,
      s.db.hosted.get 1 = some k ∧ (k.providerCheckout, remote) ∈ s.retrieved ∧
      remote.status = .paid ∧ s.db.holds.get 1 = some hold ∧ hold.price = some remote.amount := by
  let _ : Profile := ⟨fun _ _ _ => 0, fun s => s⟩
  have hterms : saleTermsOf 1 1 oneClass = some ⟨0, 25⟩ := rfl
  have hheld : Step (fun _ _ => some ⟨[5], []⟩) ⟨oneClass, fun _ => none, 0, []⟩ _ :=
    .held (i := 1) oneTarget 0 rfl hterms
  have hbegun := (Steps.refl.step hheld).step (.payBegun (i := 1) 0 rfl rfl)
  have hcreated := hbegun.step (.payCreated (t := 0) 5 rfl)
  have hinserted := hcreated.step (.payInserted (t := 0) (j := 1) 0 0 rfl rfl (by decide))
  have hwebhook := hinserted.step (.webhook "body" "signature")
  have hselected := hwebhook.step (.selected (t := 1) rfl ⟨[1], by decide, by decide, rfl⟩)
  have hnext := hselected.step (.next (t := 1) rfl)
  have hlookup := hnext.step (.lookup (t := 1) (i := 1) rfl rfl rfl)
  have hretrieved := hlookup.step (.retrieved (t := 1) ⟨.paid, 0, 25, 0, 1⟩ rfl)
  have hplaced := hretrieved.step (.placed (t := 1) false 9 0 1 rfl rfl rfl rfl rfl)
  obtain ⟨k, remote, hold, hget, -, hanswer, hpaid, -, hhold, hprice, -⟩ :=
    (sale_was_paid hplaced ⟨fun _ => rfl, fun _ => rfl, fun _ => rfl⟩).1 1 _ rfl
  exact ⟨_, rfl, k, remote, hold, hget, hanswer, hpaid, hhold, hprice⟩

end Kippu.Payments
