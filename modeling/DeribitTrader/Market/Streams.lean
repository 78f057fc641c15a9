import DeribitTrader.Market.Session

/-!
# Book channels, the two ingestion paths, and replays of messages

The link subscribes an instrument to the channel `book.<instrument>.none.10.100ms`
(`bookChannel`, `ApiClient::subscribeToOrderbook`), and `processMessage` reads the instrument
back as the text after `book.` up to the next dot (`channelInstrument`).

**The channel parse cuts at the first dot** (`book_channel_law`). For every instrument, a
notification on its channel is ingested under the part of its name before its first dot. That
is the name itself exactly when the name has no dot: then the book is stored under the name and
under no other key (`dotless_channel_stored_under_name`). A book for `BTC.X` is stored under
`BTC`, and `getOrderbook("BTC.X")` never sees it (`dotted_instrument_stored_under_prefix`).

**The snapshot and the stream agree** (`snapshot_and_stream_agree`). For an instrument with no
dot and any book data, the snapshot response and the stream notification carrying that data
leave the same cache and hand the callback the same books, up to the clock readings they take.

**A cached book is a last-writer-wins register** (`processMessage_last_writer_wins`). Two
messages whose channels name different instruments commute. A message ingested twice leaves
what one ingestion leaves. Both hold up to the clock readings. After any replay of messages,
each instrument's entry is the book of the last message that stored one for it (`storedBook`),
or the entry it had before.

Clock readings enter a book only as its `timestamp`; `unstamped` clears them to compare states.
-/

set_option autoImplicit false

namespace DeribitTrader.MarketDataClient

/-- The channel `ApiClient::subscribeToOrderbook` asks for (api_client.cpp, lines 364-383). -/
def bookChannel (instrument : String) : String := "book." ++ instrument ++ ".none.10.100ms"

/-! ## Ingestion times -/

/-- A book with its ingestion time cleared. -/
def unstampedBook (book : Orderbook) : Orderbook := { book with timestamp := 0 }

/-- The client with the ingestion time of every cached book cleared. -/
def unstamped (s : MarketDataClient) : MarketDataClient :=
  { s with orderbooks := s.orderbooks.map unstampedBook }

/-- The books handed to the callback, in order, with their ingestion times cleared. -/
def callbackBooks : List (Event MarketMutex MarketEffect) → List Orderbook
  | [] => []
  | .emit (.callback book) :: evs => unstampedBook book :: callbackBooks evs
  | _ :: evs => callbackBooks evs

@[simp] theorem callbackBooks_append (evs evs' : List (Event MarketMutex MarketEffect)) :
    callbackBooks (evs ++ evs') = callbackBooks evs ++ callbackBooks evs' := by
  induction evs with
  | nil => rfl
  | cons e evs ih => rcases e with _ | _ | (_ | _) <;> simp [callbackBooks, ih]

/-- Two clients that differ only in their books' ingestion times. -/
theorem unstamped_eq_iff {s s' : MarketDataClient} :
    unstamped s = unstamped s' ↔ s.running = s'.running ∧ s.subscriptions = s'.subscriptions ∧
      s.hasCallback = s'.hasCallback ∧
      ∀ k, (s.orderbooks.find k).map unstampedBook = (s'.orderbooks.find k).map unstampedBook := by
  obtain ⟨r, subs, books, cb⟩ := s
  obtain ⟨r', subs', books', cb'⟩ := s'
  simp only [unstamped, MarketDataClient.mk.injEq]
  constructor
  · rintro ⟨rfl, rfl, hb, rfl⟩
    exact ⟨rfl, rfl, rfl, fun k => by simpa using congrArg (StdMap.find · k) hb⟩
  · rintro ⟨rfl, rfl, rfl, hb⟩
    exact ⟨rfl, rfl, StdMap.ext fun k => by simpa using hb k, rfl⟩

/-- The clock reading of an ingestion shows only in the timestamps. -/
theorem ingest_unstamped (s : MarketDataClient) (instrument : String) (data : Json)
    (now₁ now₂ : Int) :
    unstamped (ingest s instrument data now₁).1 = unstamped (ingest s instrument data now₂).1 ∧
      callbackBooks (ingest s instrument data now₁).2 =
        callbackBooks (ingest s instrument data now₂).2 := by
  unfold ingest
  split
  · exact ⟨rfl, rfl⟩
  · refine ⟨unstamped_eq_iff.mpr ⟨rfl, rfl, rfl, fun k => ?_⟩, ?_⟩
    · by_cases hk : k = instrument <;> simp [hk, unstampedBook, bookFrom]
    · cases s.hasCallback <;> simp [callbackBooks, unstampedBook, bookFrom]

/-! ## The channel of an instrument -/

/-- The channel parse reads back the part of the name before its first dot. -/
theorem channelInstrument_bookChannel (s : String) :
    channelInstrument (bookChannel s) = ⟨s.data.takeWhile (· != '.')⟩ := by
  have hdata : (substr (bookChannel s) 5 (bookChannel s).length).data =
      s.data ++ ".none.10.100ms".data := by
    show ((("book.".data ++ s.data ++ ".none.10.100ms".data).drop 5).take
      ("book.".data ++ s.data ++ ".none.10.100ms".data).length) = _
    rw [List.append_assoc, List.drop_left' (show "book.".data.length = 5 from rfl),
      List.take_of_length_le (by simp)]
  have hdot : '.' ∈ (substr (bookChannel s) 5 (bookChannel s).length).data := by
    simp [hdata]
  have hcut := substr_find_char hdot
  rw [hdata] at hcut
  dsimp only [channelInstrument]
  rcases hfind : find (substr (bookChannel s) 5 (bookChannel s).length) "." 0 with _ | firstDot
  · simp [hfind] at hcut
  · simp only [hfind, Option.map_some', Option.some.injEq] at hcut
    dsimp only
    rw [hcut, List.takeWhile_append]
    split
    · rename_i hall
      rw [(List.takeWhile_prefix _).eq_of_length hall,
        List.takeWhile_cons_of_neg (by decide), List.append_nil]
    · rfl

/-- A name is its part before the first dot exactly when it has no dot. -/
theorem takeWhile_dot_eq_iff (s : String) :
    (⟨s.data.takeWhile (· != '.')⟩ : String) = s ↔ '.' ∉ s.data := by
  rw [String.ext_iff, List.takeWhile_eq_self_iff]
  simpa using ⟨fun h hd => h _ hd rfl, fun h x hx hxd => h (hxd ▸ hx)⟩

/-- A notification on an instrument's channel is ingested under the part of the name before its
first dot. -/
theorem run_processMessage_bookChannel (s : String) (data : Json) (now : Int)
    (c : MarketDataClient) :
    (processMessage (some (notification (bookChannel s) data)) now).run c =
      ingest c ⟨s.data.takeWhile (· != '.')⟩ data now := by
  rw [run_processMessage_eq, Option.some_bind,
    bookNotification_notification data (by simp [bookChannel, List.isPrefixOf])]
  exact congrArg (ingest c · data now) (channelInstrument_bookChannel s)

/-- **The channel parse cuts at the first dot.** A notification on an instrument's channel is
ingested under the part of the name before its first dot, which is the name exactly when it has
no dot. -/
theorem book_channel_law :
    (∀ (s : String) (data : Json) (now : Int) (c : MarketDataClient),
      (processMessage (some (notification (bookChannel s) data)) now).run c =
        ingest c ⟨s.data.takeWhile (· != '.')⟩ data now) ∧
    (∀ s : String, (⟨s.data.takeWhile (· != '.')⟩ : String) = s ↔ '.' ∉ s.data) :=
  ⟨run_processMessage_bookChannel, takeWhile_dot_eq_iff⟩

/-- **A name without a dot is its own key.** For an instrument whose name has no dot and book
data with no bad level, a notification on the instrument's channel stores the book of that data
under the name itself and under no other key, from any client, and hands it to the callback once
if there is one. -/
theorem dotless_channel_stored_under_name (s : String) (hs : '.' ∉ s.data) (data : Json)
    (hd : hasBadLevel data = false) (now : Int) (c : MarketDataClient) :
    (∀ k, ((processMessage (some (notification (bookChannel s) data)) now).run c).1.orderbooks.find
        k = if k = s then some (bookFrom s data now) else c.orderbooks.find k) ∧
    ((processMessage (some (notification (bookChannel s) data)) now).run c).2 =
      [.lock .orderbooks, .unlock .orderbooks] ++
        if c.hasCallback then [.emit (.callback (bookFrom s data now))] else [] := by
  rw [run_processMessage_bookChannel, (takeWhile_dot_eq_iff s).mpr hs]
  simp [ingest, hd]

/-- The premises hold for `BTC-PERPETUAL` and one bid, on a running client subscribed to it. -/
theorem dotless_channel_stored_under_name_btc :
    '.' ∉ "BTC-PERPETUAL".data ∧
    hasBadLevel (.object [("bids", .array [.array [.number 50000, .number 1]])]) = false ∧
    (∀ k, ((processMessage (some (notification (bookChannel "BTC-PERPETUAL")
        (.object [("bids", .array [.array [.number 50000, .number 1]])]))) 7).run
      ⟨true, ["BTC-PERPETUAL"], .empty, true⟩).1.orderbooks.find k =
        if k = "BTC-PERPETUAL" then some (bookFrom "BTC-PERPETUAL"
          (.object [("bids", .array [.array [.number 50000, .number 1]])]) 7)
        else StdMap.empty.find k) ∧
    ((processMessage (some (notification (bookChannel "BTC-PERPETUAL")
        (.object [("bids", .array [.array [.number 50000, .number 1]])]))) 7).run
      ⟨true, ["BTC-PERPETUAL"], .empty, true⟩).2 =
      [.lock .orderbooks, .unlock .orderbooks, .emit (.callback (bookFrom "BTC-PERPETUAL"
        (.object [("bids", .array [.array [.number 50000, .number 1]])]) 7))] :=
  ⟨by decide, by decide,
    dotless_channel_stored_under_name "BTC-PERPETUAL" (by decide) _ (by decide) 7
      ⟨true, ["BTC-PERPETUAL"], .empty, true⟩⟩

/-- A running client subscribed to `BTC.X` stores the book of `BTC.X`'s channel under `BTC`. -/
theorem dotted_instrument_stored_under_prefix :
    ((processMessage (some (notification (bookChannel "BTC.X")
        (.object [("bids", .array [.array [.number 50000, .number 1]])]))) 7).run
      ⟨true, ["BTC.X"], .empty, true⟩).1.orderbooks.find "BTC.X" = none ∧
    ((processMessage (some (notification (bookChannel "BTC.X")
        (.object [("bids", .array [.array [.number 50000, .number 1]])]))) 7).run
      ⟨true, ["BTC.X"], .empty, true⟩).1.orderbooks.find "BTC" =
        some ⟨"BTC", [⟨50000, 1⟩], [], 7⟩ :=
  ⟨by decide, by decide⟩

/-! ## The snapshot path and the stream path -/

/-- **The snapshot and the stream agree.** For an instrument with no dot and any book data, the
snapshot response and the stream notification carrying it leave the same cache and hand the
callback the same books, whatever clock readings the two take. -/
theorem snapshot_and_stream_agree :
    ∀ (s : String) (c : MarketDataClient) (b : Json) (now₁ now₂ : Int), '.' ∉ s.data →
      unstamped ((fetchInitialOrderbook s (some (.object [("result", b)])) now₁).run c).1 =
          unstamped ((processMessage (some (notification (bookChannel s) b)) now₂).run c).1 ∧
        callbackBooks ((fetchInitialOrderbook s (some (.object [("result", b)])) now₁).run c).2 =
          callbackBooks ((processMessage (some (notification (bookChannel s) b)) now₂).run c).2 := by
  intro s c b now₁ now₂ hs
  have hkey : (⟨s.data.takeWhile (· != '.')⟩ : String) = s := (takeWhile_dot_eq_iff s).mpr hs
  rw [run_processMessage_bookChannel, hkey, run_fetchInitialOrderbook_eq]
  simpa [snapshotData, callbackBooks] using ingest_unstamped c s b now₁ now₂

/-- The premise of the agreement holds for `BTC-PERPETUAL`: a snapshot and a notification with
one bid, read at two different times. -/
theorem snapshot_and_stream_agree_btc :
    '.' ∉ "BTC-PERPETUAL".data ∧
    (unstamped ((fetchInitialOrderbook "BTC-PERPETUAL" (some (.object [("result",
          .object [("bids", .array [.array [.number 50000, .number 1]])])])) 1).run
        (empty true)).1 =
      unstamped ((processMessage (some (notification (bookChannel "BTC-PERPETUAL")
          (.object [("bids", .array [.array [.number 50000, .number 1]])]))) 2).run
        (empty true)).1 ∧
    callbackBooks ((fetchInitialOrderbook "BTC-PERPETUAL" (some (.object [("result",
          .object [("bids", .array [.array [.number 50000, .number 1]])])])) 1).run
        (empty true)).2 =
      callbackBooks ((processMessage (some (notification (bookChannel "BTC-PERPETUAL")
          (.object [("bids", .array [.array [.number 50000, .number 1]])]))) 2).run
        (empty true)).2) :=
  ⟨by decide, snapshot_and_stream_agree "BTC-PERPETUAL" (empty true) _ 1 2 (by decide)⟩

/-! ## Replays of messages -/

/-- The book a message stores: that of a book notification with no bad level, under its
channel's instrument. -/
def storedBook (message : Option Json) (now : Int) : Option Orderbook :=
  (message.bind bookNotification).bind fun (channel, data) =>
    if hasBadLevel data then none else some (bookFrom (channelInstrument channel) data now)

/-- The instrument a message's book channel names, as `processMessage` extracts it, and `none`
for a message that is no book notification. -/
def channelKey (message : Option Json) : Option String :=
  (message.bind bookNotification).map fun (channel, _) => channelInstrument channel

/-- A message stores its book, if it has one, and changes nothing else. -/
theorem processMessage_state (message : Option Json) (now : Int) (c : MarketDataClient) :
    ((processMessage message now).run c).1 =
      match storedBook message now with
      | some book => { c with orderbooks := c.orderbooks.insert book.instrument book }
      | none => c := by
  rw [run_processMessage_eq, storedBook]
  rcases message.bind bookNotification with _ | ⟨channel, data⟩
  · rfl
  · by_cases h : hasBadLevel data <;> simp [ingest, h, bookFrom]

/-- The clock reading shows only in the stored book's timestamp. -/
theorem storedBook_stamp (message : Option Json) (now : Int) :
    storedBook message now = (storedBook message 0).map fun book => { book with timestamp := now } := by
  unfold storedBook
  rcases message.bind bookNotification with _ | ⟨channel, data⟩
  · rfl
  · by_cases h : hasBadLevel data <;> simp [h, bookFrom]

/-- A stored book is stored under the instrument its channel names. -/
theorem channelKey_of_storedBook {message : Option Json} {book : Orderbook}
    (h : storedBook message 0 = some book) : channelKey message = some book.instrument := by
  rcases hm : message.bind bookNotification with _ | ⟨channel, data⟩
  · simp [storedBook, hm] at h
  · by_cases hb : hasBadLevel data <;> simp [storedBook, hm, hb, bookFrom] at h
    simp [channelKey, hm, ← h]

/-- What a message leaves under each key. -/
theorem find_processMessage (message : Option Json) (now : Int) (c : MarketDataClient) (k : String) :
    ((processMessage message now).run c).1.orderbooks.find k =
      ((storedBook message now).filter (·.instrument == k)).or (c.orderbooks.find k) := by
  rw [processMessage_state]
  rcases storedBook message now with _ | book
  · rfl
  · by_cases hk : book.instrument = k
    · simp [hk, Option.filter_some]
    · simp [hk, Option.filter_some, Ne.symm hk]

/-- What a message leaves under each key, up to the clock readings. -/
theorem find_processMessage_unstamped (message : Option Json) (now : Int) (c : MarketDataClient)
    (k : String) :
    (((processMessage message now).run c).1.orderbooks.find k).map unstampedBook =
      (((storedBook message 0).filter (·.instrument == k)).map unstampedBook).or
        ((c.orderbooks.find k).map unstampedBook) := by
  rw [find_processMessage, storedBook_stamp]
  rcases storedBook message 0 with _ | b
  · rfl
  · by_cases hk : b.instrument = k <;> simp [Option.filter_some, hk, unstampedBook]

section Frame

variable (message : Option Json) (now : Int) (c : MarketDataClient)

@[simp] theorem running_processMessage : ((processMessage message now).run c).1.running = c.running := by
  rw [processMessage_state]; split <;> rfl

@[simp] theorem subscriptions_processMessage :
    ((processMessage message now).run c).1.subscriptions = c.subscriptions := by
  rw [processMessage_state]; split <;> rfl

@[simp] theorem hasCallback_processMessage :
    ((processMessage message now).run c).1.hasCallback = c.hasCallback := by
  rw [processMessage_state]; split <;> rfl

end Frame

/-- **A cached book is a last-writer-wins register.** Messages whose channels name different
instruments commute, and a message ingested twice leaves what one ingestion leaves, whatever the
clock readings, up to the timestamps. After any replay of messages, each entry is the book of
the last message that stored one under its key, or the entry it had before. -/
theorem processMessage_last_writer_wins :
    (∀ (c : MarketDataClient) (m₁ m₂ : Option Json) (t₁ t₂ t₁' t₂' : Int),
      (∀ k, channelKey m₁ = some k → channelKey m₂ ≠ some k) →
      unstamped ((processMessage m₂ t₂).run ((processMessage m₁ t₁).run c).1).1 =
        unstamped ((processMessage m₁ t₁').run ((processMessage m₂ t₂').run c).1).1) ∧
    (∀ (c : MarketDataClient) (m : Option Json) (t t' t'' : Int),
      unstamped ((processMessage m t').run ((processMessage m t).run c).1).1 =
        unstamped ((processMessage m t'').run c).1) ∧
    (∀ (c : MarketDataClient) (ms : List (Option Json × Int)) (k : String),
      (runCalls (ms.map fun mt => .processMessage mt.1 mt.2) c).1.orderbooks.find k =
        ((ms.filterMap fun mt => storedBook mt.1 mt.2).reverse.find? (·.instrument == k)).or
          (c.orderbooks.find k)) := by
  refine ⟨fun c m₁ m₂ t₁ t₂ t₁' t₂' hkeys => ?_, fun c m t t' t'' => ?_, fun c ms k => ?_⟩
  · refine unstamped_eq_iff.mpr ⟨by simp, by simp, by simp, fun k => ?_⟩
    simp only [find_processMessage_unstamped]
    rcases hb₁ : storedBook m₁ 0 with _ | b₁ <;> rcases hb₂ : storedBook m₂ 0 with _ | b₂
    · rfl
    · simp
    · simp
    · -- two stored books: different keys, so at most one is stored under `k`
      have hne : b₁.instrument ≠ b₂.instrument := fun he =>
        hkeys _ (channelKey_of_storedBook hb₁) (he ▸ channelKey_of_storedBook hb₂)
      by_cases hk₁ : b₁.instrument = k
      · simp [Option.filter_some, hk₁, show b₂.instrument ≠ k from hk₁ ▸ Ne.symm hne]
      · by_cases hk₂ : b₂.instrument = k <;> simp [Option.filter_some, hk₁, hk₂]
  · refine unstamped_eq_iff.mpr ⟨by simp, by simp, by simp, fun k => ?_⟩
    rw [find_processMessage_unstamped, find_processMessage_unstamped,
      find_processMessage_unstamped, ← Option.or_assoc, Option.or_self]
  · induction ms generalizing c with
    | nil => rfl
    | cons mt ms ih =>
      simp only [List.map_cons, runCalls, MarketCall.prog, ih, find_processMessage,
        List.filterMap_cons]
      rcases storedBook mt.1 mt.2 with _ | b
      · rfl
      · by_cases hk : b.instrument = k <;>
          simp [Option.filter_some, hk, Option.or_assoc]

end DeribitTrader.MarketDataClient
