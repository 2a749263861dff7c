import Kippu.Derived.ExactlyOnce
import Kippu.Derived.OnSale

/-!
# Walking the events on sale

A page of the index is a page of the events then listed, read below the position of
the last event of the page before: keyset paging. The position of an event is fixed
by the log, so that what a walk shows descends, whatever was applied meanwhile.
-/

namespace Kippu.Derived

open Conc

-- ---------------------------------------------------------------------------
-- Page tokens
-- ---------------------------------------------------------------------------

theorem length_hexDigits (k n : ℕ) : (hexDigits k n).length = k := by
  induction k generalizing n with
  | zero => rfl
  | succ k ih => simp [hexDigits, ih]

theorem isHexDigit_of_mem_hexDigits (k n : ℕ) (h : c ∈ hexDigits k n) : isHexDigit c := by
  induction k generalizing n with
  | zero => simp [hexDigits] at h
  | succ k ih =>
    simp only [hexDigits, List.mem_append, List.mem_singleton] at h
    cases h with
    | inl hrest => exact ih _ hrest
    | inr hlast => exact hlast ▸ isHexDigit_hexDigit (Nat.mod_lt n (by decide))

theorem hexNumber_hexDigits (k n : ℕ) : hexNumber (hexDigits k n) = n % 16 ^ k := by
  induction k generalizing n with
  | zero => simp [hexDigits, hexNumber, Nat.mod_one]
  | succ k ih =>
    have hrest : hexNumber (hexDigits (k + 1) n) =
        16 * hexNumber (hexDigits k (n / 16)) + hexValue (hexDigit (n % 16)) := by
      simp [hexDigits, hexNumber]
    rw [hrest, ih, hexValue_hexDigit (Nat.mod_lt n (by decide)), Nat.pow_succ', Nat.mod_mul,
      Nat.add_comm]

theorem head_toDigits (h : 0 < n) : (Nat.toDigits 10 n).head? ≠ some '0' := by
  induction n using Nat.strongRecOn with
  | ind n ih =>
    cases Nat.lt_or_ge n 10 with
    | inl hlt =>
      rw [Nat.toDigits_of_lt_base hlt]
      have hdigit : ∀ i : Fin 10, 0 < i.val → [i.val.digitChar].head? ≠ some '0' := by decide
      exact hdigit ⟨n, hlt⟩ h
    | inr hge =>
      rw [Nat.toDigits_of_base_le (by decide) hge, List.head?_append]
      have hrest := ih (n / 10) (Nat.div_lt_self h (by decide)) (by omega)
      cases hhead : (Nat.toDigits 10 (n / 10)).head? with
      | none => exact absurd (List.head?_eq_none_iff.mp hhead) Nat.toDigits_ne_nil
      | some c => simpa [hhead] using hrest

theorem PAGE_pageOf {p : EventPosition} (h : p.created ≤ MAX_SAFE_INTEGER) :
    PAGE (pageOf p) =
      some (Nat.toDigits 10 p.created, hexDigits 64 p.id) := by
  have hdigits : ∀ c ∈ Nat.toDigits 10 p.created, c.isDigit = true :=
    fun c hc => Nat.isDigit_of_mem_toDigits (by decide) (by decide) hc
  have htake : (pageOf p).takeWhile Char.isDigit = Nat.toDigits 10 p.created := by
    rw [pageOf, List.takeWhile_append_of_pos hdigits]
    simp
  have hdrop : (pageOf p).dropWhile Char.isDigit = '.' :: hexDigits 64 p.id := by
    rw [pageOf, List.dropWhile_append_of_pos hdigits]
    simp
  have hcreated : Nat.toDigits 10 p.created = ['0'] ∨
      (Nat.toDigits 10 p.created).head? ≠ some '0' ∧
        (Nat.toDigits 10 p.created).length ≤ 16 := by
    cases Nat.eq_zero_or_pos p.created with
    | inl hzero => exact .inl (hzero ▸ Nat.toDigits_zero 10)
    | inr hpos =>
      refine .inr ⟨head_toDigits hpos, ?_⟩
      rw [Nat.length_toDigits_le_iff (by decide) (by decide)]
      exact lt_of_le_of_lt h (by decide)
  have hall : (hexDigits 64 p.id).all isHexDigit = true :=
    List.all_eq_true.mpr fun c hc => isHexDigit_of_mem_hexDigits _ _ hc
  simp only [PAGE, htake, hdrop]
  rw [if_pos ⟨Nat.toDigits_ne_nil, hcreated, length_hexDigits _ _, hall⟩]

/-- A token read back is the position it was made from. -/
theorem positionOf_pageOf {p : EventPosition} (h : p.created ≤ MAX_SAFE_INTEGER)
    (hid : p.id < 16 ^ 64) : positionOf (pageOf p) = .ok p := by
  simp only [positionOf, PAGE_pageOf h, Nat.ofDigitChars_ten_toDigits, if_pos h,
    hexNumber_hexDigits, Nat.mod_eq_of_lt hid]
  rfl

-- ---------------------------------------------------------------------------
-- The rows of a page
-- ---------------------------------------------------------------------------

def SaleStore.Reads (store : SaleStore) (log : LogReader) (s : Services) : Prop :=
  ReadTo log [ledgerFacts s] .empty store.reader

variable {log : LogReader} {s : Services} {store : SaleStore} {sequence : ℕ}

theorem created_eq (hreads : store.Reads log s) (h : store.created sequence = some (k, row)) :
    k.created = sequence ∧ sequence ∈ store.reader.log.ids ∧
      store.reader.copy.events k.id = some row ∧
      ∃ record, log.records[sequence]? = some record ∧ record.event = some (k.id, 0) := by
  obtain ⟨logged, hlogged, h⟩ := Option.bind_eq_some_iff.mp h
  split at h
  · rename_i hsequence
    obtain ⟨id, hid, h⟩ := Option.bind_eq_some_iff.mp h
    obtain ⟨event, hevent, hk⟩ := Option.map_eq_some_iff.mp h
    cases hk
    have hids : sequence ∈ store.reader.log.ids :=
      (store.reader.log.mem_ids sequence).mpr (hlogged ▸ rfl)
    have hlt : sequence < store.reader.nextSequence :=
      Finset.mem_range.mp (hreads.copied.ids ▸ hids)
    rw [hreads.copied.rows sequence hlt] at hlogged
    obtain ⟨record, hrecord, hrow⟩ := Option.map_eq_some_iff.mp hlogged
    subst hrow
    refine ⟨rfl, hids, hevent, record, hrecord, ?_⟩
    cases hnumber : record.event with
    | none => simp [LogRecord.row, hnumber] at hid
    | some numbered =>
      obtain ⟨event', number⟩ := numbered
      simp only [LogRecord.row, hnumber, Option.map_some, Option.some.injEq] at hid hsequence
      rw [hid, hsequence]
      rfl
  · cases h

def SaleStore.Listed (store : SaleStore) (k : EventPosition) : Prop :=
  ∃ row, store.created k.created = some (k, row) ∧ row.status = .active ∧ store.sells k.id = true

theorem mem_rows (hreads : store.Reads log s) (after : Option EventPosition) (k : EventPosition) :
    k ∈ (store.rows after).map Prod.fst ↔ store.Listed k ∧ ∀ a ∈ after, k < a := by
  simp only [List.mem_map, SaleStore.rows, List.mem_filter, List.mem_filterMap, Finset.mem_sort,
    Bool.and_eq_true, decide_eq_true_eq, Option.all_eq_true]
  constructor
  · rintro ⟨⟨k', row⟩, ⟨⟨sequence, hids, hcreated⟩, ⟨hactive, hsells⟩, hafter⟩, rfl⟩
    have hk := (created_eq hreads hcreated).1
    exact ⟨⟨row, hk ▸ hcreated, hactive, hsells⟩, hafter⟩
  · rintro ⟨⟨row, hcreated, hactive, hsells⟩, hafter⟩
    exact ⟨(k, row), ⟨⟨k.created, (created_eq hreads hcreated).2.1, hcreated⟩, ⟨hactive, hsells⟩,
      hafter⟩, rfl⟩

theorem rows_descend (hreads : store.Reads log s) (after : Option EventPosition) :
    ((store.rows after).map Prod.fst).Pairwise (· > ·) := by
  rw [List.pairwise_map]
  refine List.Pairwise.filter _ ?_
  rw [List.pairwise_filterMap]
  refine (store.reader.log.ids.sortedGT_sort.pairwise).imp ?_
  rintro i j hij ⟨k, row⟩ hi ⟨k', row'⟩ hj
  refine Prod.Lex.lt_iff.mpr (.inl ?_)
  have hk := (created_eq hreads hi).1
  have hk' := (created_eq hreads hj).1
  exact (hk ▸ hk' ▸ hij : k'.created < k.created)

theorem listed_of_onSale (hnumbers : EventNumbers log.records) (hreads : store.Reads log s)
    (h : store.OnSale event) :
    ∃ k : EventPosition, k.id = event ∧ store.Listed k ∧
      ∃ record, log.records[k.created]? = some record ∧ record.event = some (event, 0) := by
  obtain ⟨⟨row, hrow, hactive⟩, hsells⟩ := h
  cases project_created hreads.copied.fold hrow with
  | inl hempty =>
    obtain ⟨old, hold⟩ := hempty
    cases hold
  | inr hcreated =>
    obtain ⟨record, hmem, hcreates⟩ := hcreated
    obtain ⟨n, hn⟩ := List.mem_iff_getElem?.mp hmem
    have hlt : n < store.reader.nextSequence := by
      have hlen := (List.getElem?_eq_some_iff.mp hn).1
      rw [List.length_take] at hlen
      omega
    rw [List.getElem?_take_of_lt hlt] at hn
    have hevent := hnumbers.creation record (List.mem_of_getElem? hn) hcreates
    have hlogged : store.reader.log.get n = some record.row := by
      rw [hreads.copied.rows n hlt, hn]
      rfl
    refine ⟨toLex (n, event), rfl, ⟨row, ?_, hactive, hsells⟩, record, hn, hevent⟩
    show store.created n = _
    simp [SaleStore.created, hlogged, LogRecord.row, hevent, hrow]

theorem Listed_record (hreads : store.Reads log s) (h : store.Listed k) :
    ∃ record, log.records[k.created]? = some record ∧ record.event = some (k.id, 0) := by
  obtain ⟨row, hcreated, -, -⟩ := h
  exact (created_eq hreads hcreated).2.2.2

-- ---------------------------------------------------------------------------
-- A page
-- ---------------------------------------------------------------------------

theorem int_ok (h : int n = .ok m) : m = n ∧ n ≤ MAX_SAFE_INTEGER := by
  unfold int at h
  split at h
  · rename_i hle
    cases h
    exact ⟨rfl, hle⟩
  · cases h

theorem eventOf_id (h : eventOf i row = .ok event) : event.id = i := by
  unfold eventOf at h
  obtain ⟨maxCapacity, -, h⟩ := bind_eq_ok.mp h
  obtain ⟨issued, -, h⟩ := bind_eq_ok.mp h
  obtain ⟨sequence, -, h⟩ := bind_eq_ok.mp h
  cases h
  rfl

theorem listedEvent_ok {row : EventPosition × EventRow} (h : listedEvent row = .ok listed) :
    listed.position = row.1 ∧ listed.event.id = row.1.id ∧ row.1.created ≤ MAX_SAFE_INTEGER := by
  obtain ⟨event, hevent, h⟩ := bind_eq_ok.mp h
  obtain ⟨created, hcreated, h⟩ := bind_eq_ok.mp h
  obtain ⟨rfl, hsafe⟩ := int_ok hcreated
  cases h
  exact ⟨rfl, eventOf_id hevent, hsafe⟩

theorem listedEvents_ok {rows : List (EventPosition × EventRow)}
    (h : rows.mapM listedEvent = .ok result) :
    result.map ListedEvent.position = rows.map Prod.fst ∧
      ∀ listed ∈ result, listed.event.id = listed.position.id ∧
        listed.position.created ≤ MAX_SAFE_INTEGER := by
  induction rows generalizing result with
  | nil =>
    cases h
    exact ⟨rfl, fun _ h => nomatch h⟩
  | cons row rows ih =>
    rw [List.mapM_cons] at h
    obtain ⟨listed, hlisted, h⟩ := bind_eq_ok.mp h
    obtain ⟨rest, hrest, h⟩ := bind_eq_ok.mp h
    cases h
    obtain ⟨hposition, hid, hsafe⟩ := listedEvent_ok hlisted
    obtain ⟨hpositions, hall⟩ := ih hrest
    refine ⟨by simp [hposition, hpositions], fun other hother => ?_⟩
    cases List.mem_cons.mp hother with
    | inl heq => exact heq ▸ ⟨hid.trans (hposition ▸ rfl), hposition ▸ hsafe⟩
    | inr hmem => exact hall other hmem

structure PageOf (store : SaleStore) (after : Option EventPosition) (p : EventsOnSalePage) :
    Prop where
  page : Keyset.Page store.Listed after (p.events.map ListedEvent.position) p.nextPage.isSome
  ids : ∀ listed ∈ p.events, listed.event.id = listed.position.id
  /-- The next page is read below the last event shown. -/
  token : ∀ token ∈ p.nextPage, ∃ last ∈ p.events.getLast?,
    token = pageOf last.position ∧ last.position.created ≤ MAX_SAFE_INTEGER

theorem eventsOnSale_ok (hreads : store.Reads log s) (hlimit : 0 < limit)
    (h : eventsOnSale store limit page = .ok p) :
    ∃ after, page.mapM positionOf = .ok after ∧ PageOf store after p := by
  obtain ⟨after, hafter, h⟩ := bind_eq_ok.mp h
  obtain ⟨result, hresult, h⟩ := bind_eq_ok.mp h
  cases h
  refine ⟨after, hafter, ?_⟩
  obtain ⟨hpositions, hall⟩ := listedEvents_ok hresult
  rw [List.map_take] at hpositions
  have hpage := Keyset.page_take (rows_descend hreads after) (mem_rows hreads after) hlimit
  rw [← hpositions, ← List.map_take, List.length_map] at hpage
  have hlast : limit < result.length → (result.take limit).getLast?.isSome := by
    intro hlt
    have hne := hpage.nonempty (decide_eq_true hlt)
    cases hgot : (result.take limit).getLast? with
    | none => simp [List.getLast?_eq_none_iff.mp hgot] at hne
    | some last => rfl
  have hmore : (if limit < result.length then
      (result.take limit).getLast?.map fun last => pageOf last.position else none).isSome =
        decide (limit < result.length) := by
    by_cases hlt : limit < result.length
    · simpa [hlt] using hlast hlt
    · simp [hlt]
  constructor
  · rw [← hmore] at hpage
    exact hpage
  · exact fun listed hlisted => (hall listed (List.mem_of_mem_take hlisted)).1
  · intro token htoken
    dsimp only at htoken
    split at htoken
    · obtain ⟨last, hgot, rfl⟩ := Option.map_eq_some_iff.mp htoken
      exact ⟨last, hgot, rfl, (hall last (List.mem_of_mem_take (List.mem_of_getLast? hgot))).2⟩
    · cases htoken

theorem positionOf_nextPage (hnumbers : EventNumbers log.records) (hreads : store.Reads log s)
    (h : PageOf store after p) (htoken : token ∈ p.nextPage) :
    ∃ last ∈ p.events.getLast?, positionOf token = .ok last.position := by
  obtain ⟨last, hlast, rfl, hsafe⟩ := h.token token htoken
  refine ⟨last, hlast, positionOf_pageOf hsafe ?_⟩
  have hshown : last.position ∈ p.events.map ListedEvent.position :=
    List.mem_map_of_mem (List.mem_of_getLast? hlast)
  obtain ⟨record, hrecord, hevent⟩ := Listed_record hreads (h.page.mem _ hshown)
  exact hnumbers.bytes record (List.mem_of_getElem? hrecord) hevent

-- ---------------------------------------------------------------------------
-- A walk
-- ---------------------------------------------------------------------------

def walked (page : ℕ → EventsOnSalePage) (n : ℕ) : List ListedEvent :=
  (List.range n).flatMap fun i => (page i).events

theorem walked_succ (page : ℕ → EventsOnSalePage) (n : ℕ) :
    walked page (n + 1) = walked page n ++ (page n).events := by
  simp [walked, List.range_succ]

theorem map_walked (page : ℕ → EventsOnSalePage) (n : ℕ) :
    (walked page n).map ListedEvent.position =
      Keyset.visited (fun i => (page i).events.map ListedEvent.position) n := by
  induction n with
  | zero => rfl
  | succ n ih => rw [walked_succ, List.map_append, ih, Keyset.visited]

variable {stores : ℕ → SaleStore} {pages : ℕ → EventsOnSalePage}

/-- Each page of a walk is of the store as it then is, from where the page before ended. -/
theorem Walks.pageOf (hnumbers : EventNumbers log.records) (hreads : ∀ i, (stores i).Reads log s)
    (hlimit : 0 < limit) (h : Walks limit stores pages n) (hi : i < n) :
    PageOf (stores i)
      (Keyset.anchor (fun i => (pages i).events.map ListedEvent.position) i) (pages i) := by
  induction i with
  | zero =>
    obtain ⟨after, hafter, hpage⟩ := eventsOnSale_ok (hreads 0) hlimit (h.first hi)
    cases hafter
    exact hpage
  | succ i ih =>
    obtain ⟨token, htoken, hnext⟩ := h.next i hi
    obtain ⟨last, hlast, hposition⟩ :=
      positionOf_nextPage hnumbers (hreads i) (ih (Nat.lt_of_succ_lt hi)) htoken
    obtain ⟨after, hafter, hpage⟩ := eventsOnSale_ok (hreads (i + 1)) hlimit hnext
    simp only [Option.mapM_some, hposition] at hafter
    cases hafter
    simpa [Keyset.anchor, Option.mem_def.mp hlast] using hpage

theorem Walks.keyset (hnumbers : EventNumbers log.records) (hreads : ∀ i, (stores i).Reads log s)
    (hlimit : 0 < limit) (h : Walks limit stores pages n) :
    Keyset.Walk (fun i => (stores i).Listed) (fun i => (pages i).events.map ListedEvent.position)
      (fun i => (pages i).nextPage.isSome) n where
  page i hi := (h.pageOf hnumbers hreads hlimit hi).page
  goesOn i hi := by
    obtain ⟨token, htoken, -⟩ := h.next i hi
    simp [htoken]

theorem Walks.recorded (hnumbers : EventNumbers log.records)
    (hreads : ∀ i, (stores i).Reads log s) (hlimit : 0 < limit) (h : Walks limit stores pages n)
    (hshown : listed ∈ walked pages n) :
    listed.event.id = listed.position.id ∧
      ∃ record, log.records[listed.position.created]? = some record ∧
        record.event = some (listed.position.id, 0) := by
  obtain ⟨i, hi, hlisted⟩ := List.mem_flatMap.mp hshown
  have hpage := h.pageOf hnumbers hreads hlimit (List.mem_range.mp hi)
  exact ⟨hpage.ids listed hlisted,
    Listed_record (hreads i) (hpage.page.mem _ (List.mem_map_of_mem hlisted))⟩

theorem Walks.ids_nodup (hnumbers : EventNumbers log.records)
    (hreads : ∀ i, (stores i).Reads log s) (hlimit : 0 < limit)
    (h : Walks limit stores pages n) :
    ((walked pages n).map fun listed => listed.event.id).Nodup := by
  have hdescends := (h.keyset hnumbers hreads hlimit).descends.1
  rw [← map_walked, List.pairwise_map] at hdescends
  refine List.pairwise_map.mpr (hdescends.imp_of_mem ?_)
  intro a b ha hb hlt hsame
  obtain ⟨hida, ra, hra, heventa⟩ := h.recorded hnumbers hreads hlimit ha
  obtain ⟨hidb, rb, hrb, heventb⟩ := h.recorded hnumbers hreads hlimit hb
  have hid : a.position.id = b.position.id := hida.symm.trans (hsame.trans hidb)
  rw [← hid] at heventb
  have hcreated := hnumbers.once hra hrb heventa heventb
  have hposition : a.position = b.position := by
    show toLex (a.position.created, a.position.id) = toLex (b.position.created, b.position.id)
    rw [hcreated, hid]
  exact absurd hlt (hposition ▸ lt_irrefl _)

theorem Walks.length_le (hnumbers : EventNumbers log.records)
    (hreads : ∀ i, (stores i).Reads log s) (hlimit : 0 < limit)
    (h : Walks limit stores pages n) : (walked pages n).length ≤ log.records.length := by
  have hids := h.ids_nodup hnumbers hreads hlimit
  have hsub : (walked pages n).map (fun listed => listed.event.id) ⊆
      log.records.filterMap fun record => record.event.map Prod.fst := by
    intro event hevent
    obtain ⟨listed, hlisted, rfl⟩ := List.mem_map.mp hevent
    obtain ⟨hid, record, hrecord, hnumber⟩ := h.recorded hnumbers hreads hlimit hlisted
    exact List.mem_filterMap.mpr ⟨record, List.mem_of_getElem? hrecord, by rw [hnumber, hid]; rfl⟩
  have hle := (hids.subperm hsub).length_le
  rw [List.length_map] at hle
  exact hle.trans (List.length_filterMap_le _ _)

/-- Walking the events on sale, whatever was applied and whatever classes changed between the
pages: the walk ends, what it shows descends by creation and id, no event is shown twice, and a
walk to the end shows every event that was on sale at every page. A token the server sends,
whatever it was asked for, reads back as the position of the last event on its page. -/
theorem events_on_sale_walk (log : LogReader) (s : Services)
    (hnumbers : EventNumbers log.records) (stores : ℕ → SaleStore)
    (hreads : ∀ i, ReadTo log [ledgerFacts s] .empty (stores i).reader) (limit : ℕ)
    (hlimit : 0 < limit) (pages : ℕ → EventsOnSalePage) (n : ℕ)
    (h : Walks limit stores pages n) :
    n ≤ log.records.length + 1 ∧
      ((walked pages n).map ListedEvent.position).Pairwise (· > ·) ∧
      ((walked pages n).map fun listed => listed.event.id).Nodup ∧
      (0 < n → (pages (n - 1)).nextPage = none → ∀ event, (∀ i < n, (stores i).OnSale event) →
        ∃ listed ∈ walked pages n, listed.event.id = event) ∧
      ∀ i page p, eventsOnSale (stores i) limit page = .ok p → ∀ token ∈ p.nextPage,
        ∃ last ∈ p.events.getLast?, positionOf token = .ok last.position := by
  have hwalk := h.keyset hnumbers hreads hlimit
  refine ⟨?_, ?_, h.ids_nodup hnumbers hreads hlimit, ?_, ?_⟩
  · have hlength := hwalk.le_length
    rw [← map_walked, List.length_map] at hlength
    exact hlength.trans (Nat.succ_le_succ (h.length_le hnumbers hreads hlimit))
  · rw [map_walked]
    exact hwalk.descends.1
  · intro hn hend event honSale
    -- Where the event is listed is fixed by the log: it is the same at every page.
    obtain ⟨k, hid, -, record, hrecord, hcreated⟩ :=
      listed_of_onSale hnumbers (hreads 0) (honSale 0 hn)
    have hlisted : ∀ i < n, (stores i).Listed k := by
      intro i hi
      obtain ⟨k', hid', hlisted', record', hrecord', hcreated'⟩ :=
        listed_of_onSale hnumbers (hreads i) (honSale i hi)
      have hsame : k' = k := by
        show toLex (k'.created, k'.id) = toLex (k.created, k.id)
        rw [hnumbers.once hrecord' hrecord hcreated' hcreated, hid', hid]
      exact hsame ▸ hlisted'
    have hvisited := hwalk.complete hn (by simp [hend]) hlisted
    rw [← map_walked] at hvisited
    obtain ⟨listed, hmem, hposition⟩ := List.mem_map.mp hvisited
    refine ⟨listed, hmem, ?_⟩
    rw [(h.recorded hnumbers hreads hlimit hmem).1, hposition, hid]
  · intro i page p hp token htoken
    obtain ⟨after, -, hpage⟩ := eventsOnSale_ok (hreads i) hlimit hp
    exact positionOf_nextPage hnumbers (hreads i) hpage htoken

def createdBy (cursor : Cursor) (event : EventId) : LogRecord :=
  ⟨cursor, 10, some (event, 0), none, .command cursor 7 (.createEvent event 0 none [] none)⟩

def twoCreated : LogReader where
  records := [createdBy 1 5, createdBy 2 3]
  continuation c := match c with
    | 0 => [createdBy 1 5, createdBy 2 3]
    | 1 => [createdBy 2 3]
    | _ => []
  start := rfl
  after n record h := by
    match n with
    | 0 => cases h; rfl
    | 1 => cases h; rfl
    | _ + 2 => simp at h

theorem numbers_twoCreated : EventNumbers twoCreated.records where
  creation record hrecord hcreates := by
    simp only [twoCreated, List.mem_cons, List.not_mem_nil, or_false] at hrecord
    rcases hrecord with rfl | rfl <;> (cases hcreates; rfl)
  once {_ _} i j r r' hi hj hr hr' := by
    match i, j with
    | 0, 0 => rfl
    | 1, 1 => rfl
    | 0, 1 =>
      cases hi
      cases hj
      cases hr
      cases hr'
    | 1, 0 =>
      cases hi
      cases hj
      cases hr
      cases hr'
    | _ + 2, _ => simp [twoCreated] at hi
    | _, _ + 2 => simp [twoCreated] at hj
  bytes record hrecord hnumber := by
    simp only [twoCreated, List.mem_cons, List.not_mem_nil, or_false] at hrecord
    rcases hrecord with rfl | rfl <;> (cases hnumber; decide)

def anyOwner : Services where
  getEvent _ _ := .ok ⟨7, .active, none, 0, []⟩
  registrationAccount _ := .error "ERR-InvalidRegistration"

def twoOnSale : SaleStore where
  reader :=
    { cursor := 2
      nextSequence := 2
      log := (Table.empty.set 0 (createdBy 1 5).row).set 1 (createdBy 2 3).row
      copy := ((Copy.empty.project anyOwner 0 twoCreated.records).toOption).getD .empty }
  classes := (Table.empty.set 0 ⟨5, .purchased, some 1, none⟩).set 1 ⟨3, .purchased, some 1, none⟩

def listedAt (sequence event : ℕ) : ListedEvent :=
  ⟨⟨event, ⟨7, .active, none, 0, []⟩, none, sequence⟩, toLex (sequence, event)⟩

def twoPages : ℕ → EventsOnSalePage
  | 0 => ⟨[listedAt 1 3], some (pageOf (toLex (1, 3)))⟩
  | _ => ⟨[listedAt 0 5], none⟩

theorem reads_twoOnSale : ReadTo twoCreated [ledgerFacts anyOwner] .empty twoOnSale.reader where
  copied := {
    le := by decide
    ids := by decide
    rows := by
      intro i hi
      match i with
      | 0 => rfl
      | 1 => rfl
      | _ + 2 => exact absurd hi (by simp [twoOnSale])
    fold := rfl }
  cursor := rfl

theorem sort_twoOnSale : twoOnSale.reader.log.ids.sort (· ≥ ·) = [1, 0] := by
  show (Insert.insert 1 {0} : Finset ℕ).sort (· ≥ ·) = [1, 0]
  rw [Finset.sort_insert _ (by simp) (by simp), Finset.sort_singleton]

theorem walks_twoOnSale : Walks 1 (fun _ => twoOnSale) twoPages 2 where
  first _ := by
    simp only [eventsOnSale, SaleStore.eventsOnSale, SaleStore.rows, sort_twoOnSale]
    rfl
  next i hi := by
    obtain rfl : i = 0 := by omega
    refine ⟨_, rfl, ?_⟩
    have hposition : positionOf (pageOf (toLex (1, 3))) = .ok (toLex (1, 3)) :=
      positionOf_pageOf (by decide) (by decide)
    simp only [eventsOnSale, SaleStore.eventsOnSale, SaleStore.rows, sort_twoOnSale,
      Option.mapM_some, hposition]
    rfl

theorem events_on_sale_walk_two_pages :
    ∃ listed ∈ walked twoPages 2, listed.event.id = 5 := by
  have honSale : twoOnSale.OnSale 5 := ⟨⟨_, rfl, rfl⟩, by decide⟩
  have hwalk := events_on_sale_walk twoCreated anyOwner numbers_twoCreated (fun _ => twoOnSale)
    (fun _ => reads_twoOnSale) 1 Nat.one_pos twoPages 2 walks_twoOnSale
  exact hwalk.2.2.2.1 Nat.two_pos rfl 5 fun _ _ => honSale

end Kippu.Derived
