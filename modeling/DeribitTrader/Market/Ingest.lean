import DeribitTrader.Market.State

/-!
# What a book payload does to the cache

Ingestion is all-or-nothing only for the numbers in the levels. The level loop skips every
element of a side that is not an array of at least two elements, and throws, leaving the cache
as it was, only on such an array whose first two entries are not both numbers (`badLevel`). A
message whose book data is not an object, or has no `bids` or `asks`, stores a book with no
levels on that side. So does a notification with no `params.data` at all, since
`data["params"]["data"]` reads a missing member as `null`, while `fetchInitialOrderbook` checks
`contains("result")` and drops a response without its payload
(`missing_data_stores_empty_book`).

**The law** (`book_ingestion_filters_levels`): for every decoded message, `processMessage` either
stores, under the channel's instrument, the book whose sides are the well-formed levels of the
data in order (`levelOf`), invokes the callback once with it and touches no other key, or
changes nothing and invokes nothing; the first happens exactly for a book notification
(`bookNotification`) with no bad level. `fetchInitialOrderbook` does the same with the
response's `result`, under its own instrument, after asking the link for the snapshot.
-/

set_option autoImplicit false

namespace DeribitTrader.MarketDataClient

/-! ## Levels -/

/-- A level the loop keeps: an array whose first two elements are numbers. -/
def levelOf : Json → Option Level
  | .array (.number p :: .number q :: _) => some ⟨p, q⟩
  | _ => none

/-- An element on which the loop throws: an array of at least two elements whose first two are
not both numbers. -/
def badLevel : Json → Bool
  | .array (.number _ :: .number _ :: _) => false
  | .array (_ :: _ :: _) => true
  | _ => false

theorem parseLevel_eq (j : Json) :
    parseLevel j = if badLevel j then .error () else .ok (levelOf j) := by
  match j with
  | .array (p :: q :: _) => cases p <;> cases q <;> rfl
  | .array [p] => cases p <;> rfl
  | .array [] | .null | .bool _ | .number _ | .string _ | .object _ => rfl

/-- The loop over a side: the kept levels in order, or a throw if any element is bad. -/
theorem parseLevels_eq (js : List Json) :
    parseLevels js = if js.any badLevel then .error () else .ok (js.filterMap levelOf) := by
  induction js with
  | nil => rfl
  | cons j js ih =>
    rw [parseLevels, parseLevel_eq, ih]
    by_cases hj : badLevel j <;> by_cases hjs : js.any badLevel <;>
      cases hl : levelOf j <;> simp [hj, hjs, hl]

/-- The elements of side `key` of book data. -/
def sideOf (data : Json) (key : String) : List Json :=
  match data with
  | .object ms => ((ms.lookup key).map Json.items).getD []
  | _ => []

/-- Reading a side never throws. -/
theorem sideItems_eq (data : Json) (key : String) : sideItems data key = .ok (sideOf data key) := by
  cases data with
  | object ms =>
    simp only [sideItems, sideOf, Json.contains, Json.member]
    cases ms.lookup key <;> rfl
  | _ => rfl

/-- Whether book data holds a bad level on either side. -/
def hasBadLevel (data : Json) : Bool :=
  (sideOf data "bids").any badLevel || (sideOf data "asks").any badLevel

/-- The book of well-formed data. -/
def bookFrom (instrument : String) (data : Json) (now : Int) : Orderbook :=
  ⟨instrument, (sideOf data "bids").filterMap levelOf, (sideOf data "asks").filterMap levelOf, now⟩

theorem bookOf_eq (instrument : String) (data : Json) (now : Int) :
    bookOf instrument data now =
      if hasBadLevel data then .error () else .ok (bookFrom instrument data now) := by
  simp only [bookOf, sideItems_eq, except_ok_bind, parseLevels_eq, hasBadLevel, bookFrom]
  cases (sideOf data "bids").any badLevel <;> cases (sideOf data "asks").any badLevel <;> rfl

/-! ## Messages and responses -/

/-- The channel and the book data of a book notification: an object whose `method` is the string
`subscription` and whose `params` is an object with a string `channel` starting with `book.`.
The data is `params.data`, `null` when it is missing. -/
def bookNotification : Json → Option (String × Json)
  | .object ms =>
    match ms.lookup "method", ms.lookup "params" with
    | some method, some (.object ps) =>
      if isString method "subscription" then
        match ps.lookup "channel" with
        | some (.string channel) =>
          if "book.".data.isPrefixOf channel.data then some (channel, (ps.lookup "data").getD .null)
          else none
        | _ => none
      else none
    | _, _ => none
  | _ => none

/-- The notification the link delivers for a channel: `\x7b"method": "subscription", "params":
\x7b"channel": channel, "data": data\x7d\x7d`. -/
def notification (channel : String) (data : Json) : Json :=
  .object [("method", .string "subscription"),
    ("params", .object [("channel", .string channel), ("data", data)])]

/-- A notification on a book channel is a book notification with its data. -/
theorem bookNotification_notification {channel : String} (data : Json)
    (h : "book.".data.isPrefixOf channel.data) :
    bookNotification (notification channel data) = some (channel, data) := by
  simp [bookNotification, notification, isString, List.lookup_cons, h]

/-- The `result` member of a snapshot response. -/
def snapshotData : Json → Option Json
  | .object ms => ms.lookup "result"
  | _ => none

/-- The book a message stores: that of a book notification with no bad level. -/
theorem readNotification_stores (data : Json) (now : Int) :
    (match readNotification data now with | .ok (some book) => some book | _ => none) =
      (bookNotification data).bind fun (channel, d) =>
        if hasBadLevel d then none else some (bookFrom (channelInstrument channel) d now) := by
  cases data with
  | object ms =>
    simp only [readNotification, bookNotification, Json.contains, Json.member, Except.toOption]
    cases ms.lookup "method" with
    | none => rfl
    | some method =>
      cases ms.lookup "params" with
      | none => simp only [Option.isSome_none, Bool.and_false]; rfl
      | some params =>
        cases hm : isString method "subscription"
        · simp only [Option.getD_some, Option.any_some, hm, Bool.and_false, Bool.false_and]
          cases params with
          | object ps => simp only [hm]; rfl
          | _ => rfl
        · cases params with
          | object ps =>
            simp only [hm, Option.isSome_some, Option.any_some, Option.getD_some, Bool.and_self,
              if_true, except_ok_bind]
            cases ps.lookup "channel" with
            | some channel =>
              cases channel with
              | string channel =>
                by_cases hb : "book.".data.isPrefixOf channel.data
                · simp only [Option.isSome_some, Option.getD_some, if_true, Json.getString,
                    except_ok_bind, find_eq_zero.mpr hb, bookOf_eq, hb]
                  by_cases hd : hasBadLevel ((ps.lookup "data").getD .null) <;> simp [hd]
                · have hf : find channel "book." 0 ≠ some 0 := fun h => hb (find_eq_zero.mp h)
                  simp [Json.getString, hf, hb]; rfl
              | _ => rfl
            | none => rfl
          | _ => simp only [Option.getD_some, Option.any_some, hm]; rfl
  | _ => rfl

/-- The book a snapshot response stores: that of its `result` when it has no bad level. -/
theorem readSnapshot_stores (instrument : String) (data : Json) (now : Int) :
    (match readSnapshot instrument data now with | .ok (some book) => some book | _ => none) =
      (snapshotData data).bind fun d =>
        if hasBadLevel d then none else some (bookFrom instrument d now) := by
  cases data with
  | object ms =>
    simp only [readSnapshot, snapshotData, Json.contains, Json.member]
    cases ms.lookup "result" with
    | none => rfl
    | some d => by_cases hd : hasBadLevel d <;> simp [bookOf_eq, hd]
  | _ => rfl

/-! ## Ingestion -/

/-- What ingesting book data for an instrument does: nothing when a level is bad; otherwise the
book of the well-formed levels replaces the instrument's entry in one `orderbooks_mutex_` block,
and the callback, if one is registered, receives it once. -/
def ingest (s : MarketDataClient) (instrument : String) (data : Json) (now : Int) :
    MarketDataClient × List (Event MarketMutex MarketEffect) :=
  if hasBadLevel data then (s, [])
  else
    let book := bookFrom instrument data now
    ({ s with orderbooks := s.orderbooks.insert instrument book },
      [.lock .orderbooks, .unlock .orderbooks] ++
        if s.hasCallback then [.emit (.callback book)] else [])

/-- Storing the book of data without bad levels is ingesting the data. -/
theorem ingest_eq (s : MarketDataClient) (instrument : String) (data : Json) (now : Int) :
    ingest s instrument data now =
      if hasBadLevel data then (s, []) else (storeBook (bookFrom instrument data now)).run s := by
  unfold ingest; split <;> simp [bookFrom]

/-- A message that decodes runs as the store of the book `readNotification` yields. -/
theorem run_processMessage_some (data : Json) (now : Int) (s : MarketDataClient) :
    (processMessage (some data) now).run s =
      ((match readNotification data now with | .ok (some book) => some book | _ => none).map
        fun book => (storeBook book).run s).getD (s, []) := by
  rw [run_processMessage, Option.map_some']
  rcases readNotification data now with _ | _ | _ <;> rfl

/-- A response that decodes runs as the link call, then the store of the book `readSnapshot`
yields. -/
theorem run_fetchInitialOrderbook_some (instrument : String) (data : Json) (now : Int)
    (s : MarketDataClient) :
    (fetchInitialOrderbook instrument (some data) now).run s =
      let r := ((match readSnapshot instrument data now with
        | .ok (some book) => some book | _ => none).map fun book => (storeBook book).run s).getD (s, [])
      (r.1, .emit (.link (.getOrderbook instrument)) :: r.2) := by
  simp only [fetchInitialOrderbook, Option.map_some', Prog.run_emit]
  rcases readSnapshot instrument data now with _ | _ | _ <;> rfl

/-- A message runs as the ingestion of a book notification's data under its channel's
instrument, and as nothing otherwise. -/
theorem run_processMessage_eq (s : MarketDataClient) (now : Int) (message : Option Json) :
    (processMessage message now).run s =
      match message.bind bookNotification with
      | some (channel, data) => ingest s (channelInstrument channel) data now
      | none => (s, []) := by
  rcases message with _ | data
  · rfl
  · rw [run_processMessage_some, readNotification_stores, Option.some_bind]
    rcases bookNotification data with _ | ⟨channel, d⟩
    · rfl
    · simp only [Option.some_bind, ingest_eq]; split <;> rfl

/-- A response runs as the link call, then the ingestion of its `result` under the instrument
asked for. -/
theorem run_fetchInitialOrderbook_eq (s : MarketDataClient) (now : Int) (instrument : String)
    (response : Option Json) :
    (fetchInitialOrderbook instrument response now).run s =
      match response.bind snapshotData with
      | some data => ((ingest s instrument data now).1,
          .emit (.link (.getOrderbook instrument)) :: (ingest s instrument data now).2)
      | none => (s, [.emit (.link (.getOrderbook instrument))]) := by
  rcases response with _ | data
  · rfl
  · rw [run_fetchInitialOrderbook_some, readSnapshot_stores, Option.some_bind]
    rcases snapshotData data with _ | d
    · rfl
    · simp only [Option.some_bind, ingest_eq]; split <;> rfl

/-- **The law.** A message stores the book of its data exactly when it is a book notification
without bad levels, under the instrument its channel names; a snapshot response does the same
with its `result`, after the link call that fetched it. -/
theorem book_ingestion_filters_levels (s : MarketDataClient) (now : Int) :
    (∀ message, (processMessage message now).run s =
      match message.bind bookNotification with
      | some (channel, data) => ingest s (channelInstrument channel) data now
      | none => (s, [])) ∧
    ∀ instrument response, (fetchInitialOrderbook instrument response now).run s =
      match response.bind snapshotData with
      | some data => ((ingest s instrument data now).1,
          .emit (.link (.getOrderbook instrument)) :: (ingest s instrument data now).2)
      | none => (s, [.emit (.link (.getOrderbook instrument))]) :=
  ⟨run_processMessage_eq s now, run_fetchInitialOrderbook_eq s now⟩

/-- A notification with no `params.data`, on a running client subscribed to its instrument,
stores a book with no levels and hands it to the callback, where a snapshot response with no
`result` changes nothing and hands nothing over. -/
theorem missing_data_stores_empty_book :
    ((processMessage (some (.object [("method", .string "subscription"),
        ("params", .object [("channel", .string "book.BTC-PERPETUAL.none.10.100ms")])])) 7).run
      ⟨true, ["BTC-PERPETUAL"], .empty, true⟩).1.orderbooks.find "BTC-PERPETUAL" =
        some ⟨"BTC-PERPETUAL", [], [], 7⟩ ∧
    ((processMessage (some (.object [("method", .string "subscription"),
        ("params", .object [("channel", .string "book.BTC-PERPETUAL.none.10.100ms")])])) 7).run
      ⟨true, ["BTC-PERPETUAL"], .empty, true⟩).2 =
        [.lock .orderbooks, .unlock .orderbooks, .emit (.callback ⟨"BTC-PERPETUAL", [], [], 7⟩)] ∧
    ((fetchInitialOrderbook "BTC-PERPETUAL" (some (.object [])) 7).run
      ⟨true, ["BTC-PERPETUAL"], .empty, true⟩).1.orderbooks.find "BTC-PERPETUAL" = none ∧
    ((fetchInitialOrderbook "BTC-PERPETUAL" (some (.object [])) 7).run
      ⟨true, ["BTC-PERPETUAL"], .empty, true⟩).2 = [.emit (.link (.getOrderbook "BTC-PERPETUAL"))] := by
  decide

end DeribitTrader.MarketDataClient
