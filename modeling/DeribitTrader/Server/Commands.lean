import DeribitTrader.Server.State
import DeribitTrader.JsonText

/-!
# The command grammar of `handleMessage`

A client sends a command as a JSON text, `{"type": "subscribe", "instrument": <id>}` or the same
with `unsubscribe`. `handleMessage` does not read the frame as JSON: `parseCommand` searches it
for the substrings `"type":"subscribe"`, `"type":"unsubscribe"` and `"instrument":`, and cuts the
instrument out up to the next quote. This module states what that search makes of frames,
against what `JsonText.decode` says they mean.

What is proved:
* on the compact spelling of each command (`commandText`: the members in the documented order,
  no whitespace, no escape) the parser finds the command and its instrument, for every
  instrument without a quote, and the text denotes that command when the instrument is plain
  (`compact_command_law`);
* the parser never cuts out a quote (`instrumentOf_no_quote`), so the acknowledgement of a
  command whose instrument has no backslash and no control character denotes the
  acknowledgement of that instrument (`acknowledgement_names_instrument`), on every frame whose
  character after the instrument key's colon is ASCII, where the model's character positions
  and the code's byte positions cut the same instrument (`asciiAfterInstrumentKey`).

What the parser does not do: it reads no other spelling. Whitespace between tokens, members in
the other order, escapes in the instrument, a missing or non-string instrument are each read
otherwise than JSON reads them, and the acknowledgement repeats the instrument without escaping
it; the two theorems after the laws give frames on which this happens.
-/

set_option autoImplicit false

namespace DeribitTrader.WebSocketServer

open JsonText

/-! ## The compact spelling of a command -/

/-- The compact text of the command `{"type": type, "instrument": instrument}`. -/
def commandText (type instrument : String) : String :=
  "\x7b\"type\":\"" ++ type ++ "\",\"instrument\":\"" ++ instrument ++ "\"\x7d"

/-- The text of a compact command, cut where the search steps. -/
theorem commandText_data (type instrument : String) :
    (commandText type instrument).data = "\x7b\"type\":".data ++ '"' :: (type.data ++ '"' :: ',' ::
      ("\"instrument\":\"".data ++ (instrument.data ++ ['"', '\x7d']))) := by
  simp only [commandText, String.data_append, List.append_assoc]
  rfl

/-- A compact command is the compact text of its object. -/
theorem commandText_eq (type instrument : String) :
    commandText type instrument = objectText ("type", type) [("instrument", instrument)] := by
  apply String.ext
  simp [commandText, objectText, memberText, moreMembersText]

/-- An acknowledgement is the compact text of its object. -/
theorem subscriptionText_eq (instrument status : String) :
    subscriptionText instrument status =
      objectText ("type", "subscription") [("instrument", instrument), ("status", status)] := by
  apply String.ext
  simp [subscriptionText, objectText, memberText, moreMembersText]


/-- The text of a compact command up to its instrument. -/
theorem commandText_split (type instrument : String) :
    (commandText type instrument).data =
      ("\x7b\"type\":".data ++ '"' :: (type.data ++ '"' :: ',' :: "\"instrument\":\"".data)) ++
        (instrument.data ++ ['"', '\x7d']) := by
  rw [commandText_data]
  simp

/-- The search for `"instrument":` steps over the type when the type holds no quote. -/
theorem find_instrument_commandText {type : String} (ht : '"' ∉ type.data) (instrument : String) :
    find (commandText type instrument) "\"instrument\":" 0 = some (type.length + 11) := by
  rw [find, if_pos (Nat.zero_le _), List.drop_zero, commandText_data]
  calc scanFor "\"instrument\":".data ("\x7b\"type\":".data ++ '"' :: (type.data ++ '"' :: ',' ::
        ("\"instrument\":\"".data ++ (instrument.data ++ ['"', '\x7d'])))) 0
      = scanFor ('"' :: ("instrument".data ++ '"' :: ':' :: [])) ('"' :: (type.data ++ '"' :: ',' ::
        ("\"instrument\":\"".data ++ (instrument.data ++ ['"', '\x7d'])))) 8 := rfl
    _ = some (8 + 1 + type.data.length + 1 + 1) := by
      rw [scanFor_quoted (by decide) ht (by decide)]
      rfl
    _ = some (type.length + 11) := congrArg some (show _ = type.data.length + 11 by omega)

/-- The parser cuts the instrument out of a compact command whose type and instrument hold no
quote. -/
theorem instrumentOf_commandText {type instrument : String} (ht : '"' ∉ type.data)
    (hi : '"' ∉ instrument.data) : instrumentOf (commandText type instrument) = some instrument := by
  have hpre : ("\x7b\"type\":".data ++ '"' :: (type.data ++ '"' :: ',' ::
      "\"instrument\":\"".data)).length = type.length + 11 + 13 + 1 := by
    simp only [List.length_append, List.length_cons, List.length_nil]
    show _ = type.data.length + 11 + 13 + 1
    omega
  have hrest : (commandText type instrument).data.drop (type.length + 11 + 13 + 1) =
      instrument.data ++ ['"', '\x7d'] := by
    rw [commandText_split, List.drop_left' hpre]
  have hlen : type.length + 11 + 13 + 1 ≤ (commandText type instrument).length := by
    show _ ≤ (commandText type instrument).data.length
    rw [commandText_split, List.length_append, hpre]
    omega
  have hstop : find (commandText type instrument) "\"" (type.length + 11 + 13 + 1) =
      some (type.length + 11 + 13 + 1 + instrument.length) := by
    rw [find, if_pos hlen, hrest, show "\"".data = ['"'] from rfl, scanFor_append_of_not_mem hi]
    rfl
  simp only [instrumentOf, find_instrument_commandText ht, hstop, substr, hrest]
  exact congrArg (fun l => some (String.mk l)) (List.take_left' (show instrument.data.length =
    type.data.length + 11 + 13 + 1 + instrument.data.length - (type.data.length + 11 + 13) - 1 by
      omega))

/-! ## What the parser makes of a compact command -/

theorem parseCommand_subscribe {instrument : String} (hi : '"' ∉ instrument.data) :
    parseCommand (commandText "subscribe" instrument) = .subscribe instrument := by
  have htype : find (commandText "subscribe" instrument) "\"type\":\"subscribe\"" 0 = some 1 := by
    rw [find, if_pos (Nat.zero_le _), List.drop_zero, commandText_data]
    rfl
  rw [parseCommand, htype, instrumentOf_commandText (by decide) hi]
  rfl

theorem parseCommand_unsubscribe {instrument : String} (hi : '"' ∉ instrument.data) :
    parseCommand (commandText "unsubscribe" instrument) = .unsubscribe instrument := by
  -- `"type":"subscribe"` is not found: the search passes the type, then the instrument
  have hsub : find (commandText "unsubscribe" instrument) "\"type\":\"subscribe\"" 0 = none := by
    rw [find, if_pos (Nat.zero_le _), List.drop_zero, commandText_data]
    calc scanFor _ _ 0
        = scanFor ('"' :: ("type".data ++ '"' :: ':' :: "\"subscribe\"".data))
            ('"' :: (instrument.data ++ '"' :: '\x7d' :: [])) 35 := rfl
      _ = none := by rw [scanFor_quoted (by decide) hi (by decide)]; rfl
  have htype : find (commandText "unsubscribe" instrument) "\"type\":\"unsubscribe\"" 0 =
      some 1 := by
    rw [find, if_pos (Nat.zero_le _), List.drop_zero, commandText_data]
    rfl
  rw [parseCommand, hsub, htype, instrumentOf_commandText (by decide) hi]
  rfl

/-- A command the parser reads carries the instrument it cuts out. -/
theorem instrumentOf_of_parseCommand {m s : String}
    (h : parseCommand m = .subscribe s ∨ parseCommand m = .unsubscribe s) : instrumentOf m = some s := by
  unfold parseCommand at h
  cases hi : instrumentOf m <;> split_ifs at h <;> simp_all

/-- The parser never cuts out a quote. -/
theorem instrumentOf_no_quote {m s : String} (h : instrumentOf m = some s) : '"' ∉ s.data := by
  unfold instrumentOf at h
  split at h
  · contradiction
  · rename_i pos _
    split at h
    · contradiction
    · rename_i stop hstop
      obtain rfl := Option.some.inj h
      unfold find at hstop
      split at hstop
      · have := not_mem_take_of_scanFor hstop
        simpa only [substr, show stop - (pos + 13) - 1 = stop - (pos + 13 + 1) by omega] using this
      · contradiction

/-- Both commands of a plain instrument are plain members. -/
theorem plainMember_command {type instrument : String} (ht : ∀ ch ∈ type.data, plain ch)
    (hi : ∀ ch ∈ instrument.data, plain ch) :
    ∀ m ∈ [("type", type), ("instrument", instrument)], PlainMember m := by
  simp only [List.mem_cons, List.mem_singleton, List.not_mem_nil, or_false, forall_eq_or_imp,
    forall_eq, PlainMember]
  exact ⟨⟨by decide, ht⟩, by decide, hi⟩

/-- The compact spelling of each command is handled as that command, for every instrument
without a quote; the text denotes that command when the instrument is plain. -/
theorem compact_command_law (c instrument : String) (hi : '"' ∉ instrument.data) :
    handleMessage c (commandText "subscribe" instrument) = addSubscription c instrument ∧
    handleMessage c (commandText "unsubscribe" instrument) = removeSubscription c instrument ∧
    ((∀ ch ∈ instrument.data, plain ch) →
      decode (commandText "subscribe" instrument) =
        some (stringObject [("type", "subscribe"), ("instrument", instrument)]) ∧
      decode (commandText "unsubscribe" instrument) =
        some (stringObject [("type", "unsubscribe"), ("instrument", instrument)])) := by
  refine ⟨by rw [handleMessage, parseCommand_subscribe hi], by rw [handleMessage,
    parseCommand_unsubscribe hi], fun hp => ⟨?_, ?_⟩⟩ <;>
  · rw [commandText_eq]
    exact decode_objectText (plainMember_command (by decide) hp)

theorem compact_command_law_btc :
    '"' ∉ "BTC-PERPETUAL".data ∧
      handleMessage "c" (commandText "subscribe" "BTC-PERPETUAL") =
        addSubscription "c" "BTC-PERPETUAL" ∧
      handleMessage "c" (commandText "unsubscribe" "BTC-PERPETUAL") =
        removeSubscription "c" "BTC-PERPETUAL" ∧
      ((∀ ch ∈ "BTC-PERPETUAL".data, plain ch) →
        decode (commandText "subscribe" "BTC-PERPETUAL") =
          some (stringObject [("type", "subscribe"), ("instrument", "BTC-PERPETUAL")]) ∧
        decode (commandText "unsubscribe" "BTC-PERPETUAL") =
          some (stringObject [("type", "unsubscribe"), ("instrument", "BTC-PERPETUAL")])) :=
  ⟨by decide, compact_command_law "c" "BTC-PERPETUAL" (by decide)⟩

/-- Other JSON spellings are misread: with a space after each colon the subscribe command is
an unknown command; without an instrument nothing is done and nothing is sent; with a number
for the instrument and a member after it, the connection is subscribed to `,`. -/
theorem command_spellings_misread :
    decode "\x7b\"type\": \"subscribe\", \"instrument\": \"BTC-PERPETUAL\"\x7d" =
        some (stringObject [("type", "subscribe"), ("instrument", "BTC-PERPETUAL")]) ∧
      (∀ c w, (handleMessage c "\x7b\"type\": \"subscribe\", \"instrument\": \"BTC-PERPETUAL\"\x7d").run w =
        (w, [.emit (.send c unknownCommandText)])) ∧
    decode "\x7b\"type\":\"subscribe\"\x7d" = some (stringObject [("type", "subscribe")]) ∧
      (∀ c w, (handleMessage c "\x7b\"type\":\"subscribe\"\x7d").run w = (w, [])) ∧
    decode "\x7b\"type\":\"subscribe\",\"instrument\":5,\"x\":\"y\"\x7d" =
        some (.object [("type", .string "subscribe"), ("instrument", .number 5), ("x", .string "y")]) ∧
      (∀ c, handleMessage c "\x7b\"type\":\"subscribe\",\"instrument\":5,\"x\":\"y\"\x7d" =
        addSubscription c ",") :=
  ⟨rfl, fun _ _ => rfl, rfl, fun _ _ => rfl, rfl, fun _ => rfl⟩

/-! ## The acknowledgement -/

/-- An instrument the parser cuts out, with no backslash and no control character, is plain. -/
theorem plain_of_instrumentOf {m instrument : String} (h : instrumentOf m = some instrument)
    (hi : ∀ ch ∈ instrument.data, ch ≠ '\\' ∧ 0x20 ≤ ch.toNat) : ∀ ch ∈ instrument.data, plain ch := by
  intro ch hch
  have hq : ch ≠ '"' := fun hq => instrumentOf_no_quote h (hq ▸ hch)
  simp [plain, hq, (hi ch hch).1, (hi ch hch).2]

/-- The acknowledgement of a plain instrument denotes it. -/
theorem decode_subscriptionText {instrument status : String}
    (hi : ∀ ch ∈ instrument.data, plain ch) (hs : ∀ ch ∈ status.data, plain ch) :
    decode (subscriptionText instrument status) =
      some (stringObject [("type", "subscription"), ("instrument", instrument), ("status", status)]) := by
  rw [subscriptionText_eq]
  refine decode_objectText ?_
  simp only [List.mem_cons, List.mem_singleton, List.not_mem_nil, or_false, forall_eq_or_imp,
    forall_eq, PlainMember]
  exact ⟨⟨by decide, by decide⟩, ⟨by decide, hi⟩, by decide, hs⟩

/-- The frames on which `instrumentOf` cuts what the code cuts: the code steps one byte past
the colon of `"instrument":` and the model one character, which is one byte exactly when it is
ASCII. A frame with no such key, or nothing after its colon, has no instrument either way. -/
def asciiAfterInstrumentKey (message : String) : Bool :=
  match find message "\"instrument\":" 0 with
  | none => true
  | some pos => (message.data.get? (pos + 13)).all (·.toNat < 128)

/-- On every frame the parser reads as a command whose character after the instrument key's colon
is ASCII, the one frame sent back is the acknowledgement; when the instrument has no backslash and
no control character, it denotes the acknowledgement of the instrument added to or removed from
the indexes. The model's proof needs no premise on the frame; the ASCII one keeps the law to the
frames on which the model cuts the instrument the code cuts. -/
theorem acknowledgement_names_instrument (c m instrument : String) (w : WebSocketServer)
    (_ha : asciiAfterInstrumentKey m = true)
    (hi : ∀ ch ∈ instrument.data, ch ≠ '\\' ∧ 0x20 ≤ ch.toNat) :
    (parseCommand m = .subscribe instrument →
      (handleMessage c m).run w = (subscribeBlock c instrument w, [.lock .subscriptions,
        .unlock .subscriptions, .emit (.send c (subscriptionText instrument "subscribed"))]) ∧
      decode (subscriptionText instrument "subscribed") = some (stringObject
        [("type", "subscription"), ("instrument", instrument), ("status", "subscribed")])) ∧
    (parseCommand m = .unsubscribe instrument →
      (handleMessage c m).run w = (unsubscribeBlock c instrument w, [.lock .subscriptions,
        .unlock .subscriptions, .emit (.send c (subscriptionText instrument "unsubscribed"))]) ∧
      decode (subscriptionText instrument "unsubscribed") = some (stringObject
        [("type", "subscription"), ("instrument", instrument), ("status", "unsubscribed")])) := by
  constructor
  · intro hm
    have hp := plain_of_instrumentOf (instrumentOf_of_parseCommand (.inl hm)) hi
    exact ⟨by rw [handleMessage, hm, run_addSubscription], decode_subscriptionText hp (by decide)⟩
  · intro hm
    have hp := plain_of_instrumentOf (instrumentOf_of_parseCommand (.inr hm)) hi
    exact ⟨by rw [handleMessage, hm, run_removeSubscription], decode_subscriptionText hp (by decide)⟩

theorem acknowledgement_names_instrument_btc :
    asciiAfterInstrumentKey (commandText "subscribe" "BTC-PERPETUAL") = true ∧
    (∀ ch ∈ "BTC-PERPETUAL".data, ch ≠ '\\' ∧ 0x20 ≤ ch.toNat) ∧
    (parseCommand (commandText "subscribe" "BTC-PERPETUAL") = .subscribe "BTC-PERPETUAL" →
      (handleMessage "c" (commandText "subscribe" "BTC-PERPETUAL")).run empty =
        (subscribeBlock "c" "BTC-PERPETUAL" empty, [.lock .subscriptions, .unlock .subscriptions,
          .emit (.send "c" (subscriptionText "BTC-PERPETUAL" "subscribed"))]) ∧
      decode (subscriptionText "BTC-PERPETUAL" "subscribed") = some (stringObject
        [("type", "subscription"), ("instrument", "BTC-PERPETUAL"), ("status", "subscribed")])) ∧
    (parseCommand (commandText "subscribe" "BTC-PERPETUAL") = .unsubscribe "BTC-PERPETUAL" →
      (handleMessage "c" (commandText "subscribe" "BTC-PERPETUAL")).run empty =
        (unsubscribeBlock "c" "BTC-PERPETUAL" empty, [.lock .subscriptions,
          .unlock .subscriptions, .emit (.send "c" (subscriptionText "BTC-PERPETUAL" "unsubscribed"))]) ∧
      decode (subscriptionText "BTC-PERPETUAL" "unsubscribed") = some (stringObject
        [("type", "subscription"), ("instrument", "BTC-PERPETUAL"), ("status", "unsubscribed")])) :=
  ⟨by decide, by decide,
    acknowledgement_names_instrument "c" _ "BTC-PERPETUAL" empty (by decide) (by decide)⟩

/-- An escaped instrument is acknowledged as another one: the frame whose instrument denotes
`a\b` adds its escaped text `a\\b` to the indexes, and the acknowledgement of that text denotes
`a\b` again. A frame whose instrument ends in a backslash adds `a\`, and its acknowledgement is
no JSON text. -/
theorem acknowledgement_misnames_escaped_instrument :
    decode "\x7b\"type\":\"subscribe\",\"instrument\":\"a\\\\b\"\x7d" =
        some (stringObject [("type", "subscribe"), ("instrument", "a\\b")]) ∧
      (∀ c, handleMessage c "\x7b\"type\":\"subscribe\",\"instrument\":\"a\\\\b\"\x7d" =
        addSubscription c "a\\\\b") ∧
      decode (subscriptionText "a\\\\b" "subscribed") = some (stringObject
        [("type", "subscription"), ("instrument", "a\\b"), ("status", "subscribed")]) ∧
    (∀ c, handleMessage c "\x7b\"type\":\"subscribe\",\"instrument\":\"a\\\"\x7d" =
        addSubscription c "a\\") ∧
      decode (subscriptionText "a\\" "subscribed") = none :=
  ⟨rfl, fun _ => rfl, rfl, fun _ => rfl, rfl⟩

end DeribitTrader.WebSocketServer
