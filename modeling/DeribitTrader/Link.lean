import DeribitTrader.JsonText
import DeribitTrader.Market.Streams

/-!
# The exchange link (`api_client.cpp`)

`ApiClient` reaches the exchange two ways. Its REST methods all go through `makeRequest`, which
in this build sends nothing and answers every request with the text `{"result": "success"}`;
`cancelOrder` and `modifyOrder` report success whatever the answer. Its streaming session writes
JSON-RPC requests that a `std::stringstream` builds line by line, with the instrument and the
credentials inserted as they are: `authenticate` once the handshake is done, and
`subscribeToOrderbook` / `unsubscribeFromOrderbook` for an instrument's book channel
(`bookChannel`). Here each of the three is the text it writes; whether a session is there to
write it is the session's part (`Market.Session`).

What is proved:
* for every instrument of plain characters, the texts `subscribeToOrderbook` and
  `unsubscribeFromOrderbook` write are the JSON-RPC requests `public/subscribe` (id 3600) and
  `public/unsubscribe` (id 8691) of the instrument's book channel (`channel_request_law`);
* for plain credentials, the text `authenticate` writes is the `public/auth` request with the
  grant `client_credentials` and those credentials (`auth_request_law`).

Nothing is escaped: an instrument with a quote writes another request, as the example after
`channel_request_law` shows.
-/

set_option autoImplicit false

namespace DeribitTrader.ApiClient

open JsonText MarketDataClient

/-! ## REST requests -/

/-- `makeRequest(method, endpoint, params)` (lines 282-289): a placeholder that sends nothing and
answers every request alike. -/
def makeRequest (_method _endpoint : String) : String := "\x7b\"result\": \"success\"\x7d"

/-- `placeOrder(...)` (lines 291-302): the answer of `makeRequest`; the parameters it prepares
are never read. -/
def placeOrder (_instrument : String) (_isBuy : Bool) (_price _amount : ℚ) (_orderType : String) :
    String :=
  makeRequest "POST" "/api/v2/private/buy"

/-- `cancelOrder(order_id)` (lines 304-314): success, whatever the answer. -/
def cancelOrder (_orderId : String) : Bool := true

/-- `modifyOrder(order_id, new_price, new_amount)` (lines 316-328): success, whatever the
answer. -/
def modifyOrder (_orderId : String) (_newPrice _newAmount : ℚ) : Bool := true

/-- `getOrderbook(instrument, depth)` (lines 330-338). -/
def getOrderbook (_instrument : String) (_depth : Nat) : String :=
  makeRequest "GET" "/api/v2/public/get_order_book"

/-- `getCurrentPositions()` (lines 340-343). -/
def getCurrentPositions : String := makeRequest "GET" "/api/v2/private/get_positions"

/-! ## Streaming requests -/

/-- `ApiClient::Auth`. -/
structure Auth where
  clientId : String
  clientSecret : String

/-- A JSON-RPC 2.0 request as the exchange reads it. -/
def rpcRequest (id : Nat) (method : String) (params : List (String × Json)) : Json :=
  .object [("jsonrpc", .string "2.0"), ("id", .number id), ("method", .string method),
    ("params", .object params)]

/-- The text `subscribeToOrderbook` and `unsubscribeFromOrderbook` build for an instrument
(lines 369-376 and 390-397), each with its own id and method; the channel between the quotes
is `bookChannel`'s text. -/
def channelRequest (id : Nat) (method instrument : String) : String :=
  "\x7b\n" ++ "  \"jsonrpc\": \"2.0\",\n" ++ "  \"id\": " ++ toString id ++ ",\n" ++
    "  \"method\": \"" ++ method ++ "\",\n" ++ "  \"params\": \x7b\n" ++
    "    \"channels\": [\"" ++ bookChannel instrument ++ "\"]\n" ++ "  \x7d\n" ++ "\x7d"

/-- The text `subscribeToOrderbook(instrument)` writes (lines 364-383). -/
def subscribeToOrderbook (instrument : String) : String :=
  channelRequest 3600 "public/subscribe" instrument

/-- The text `unsubscribeFromOrderbook(instrument)` writes (lines 385-404). -/
def unsubscribeFromOrderbook (instrument : String) : String :=
  channelRequest 8691 "public/unsubscribe" instrument

/-- The text `authenticate()` writes (lines 121-137). -/
def authenticate (auth : Auth) : String :=
  "\x7b\n" ++ "  \"jsonrpc\": \"2.0\",\n" ++ "  \"id\": 9929,\n" ++ "  \"method\": \"public/auth\",\n" ++
    "  \"params\": \x7b\n" ++ "    \"grant_type\": \"client_credentials\",\n" ++
    "    \"client_id\": \"" ++ auth.clientId ++ "\",\n" ++
    "    \"client_secret\": \"" ++ auth.clientSecret ++ "\"\n" ++ "  \x7d\n" ++ "\x7d"

/-! ## What the requests denote

Each text is read one decoder step at a time (`JsonText`'s `_skip_` lemmas): the fixed pieces
by computation, the inserted instrument or credential as a plain string literal. -/

/-- The channel of a plain instrument is plain. -/
theorem plain_bookChannel {instrument : String} (hi : ∀ c ∈ instrument.data, plain c) :
    ∀ c ∈ (bookChannel instrument).data, plain c := by
  intro c hc
  simp only [bookChannel, String.data_append, List.mem_append] at hc
  rcases hc with (hc | hc) | hc
  · revert c; decide
  · exact hi c hc
  · revert c; decide

/-- The text of a channel request, for a plain method and instrument, denotes the request. -/
theorem decode_channelRequest (id : Nat) {method instrument : String}
    (hm : ∀ c ∈ method.data, plain c) (hi : ∀ c ∈ instrument.data, plain c) :
    decode (channelRequest id method instrument) =
      some (rpcRequest id method [("channels", .array [.string (bookChannel instrument)])]) := by
  have hlen : 9 ≤ (channelRequest id method instrument).length := by
    have hline : 9 ≤ "  \"jsonrpc\": \"2.0\",\n".length := by decide
    simp only [channelRequest, String.length_append]
    omega
  refine decode_of_value 9 hlen fun f => ?_
  simp only [channelRequest, String.data_append, List.append_assoc]
  exact (value_skip_object (by rfl) (by rfl) _).trans <|
    (members_skip_comma (k := "jsonrpc".data) (by rfl) (by decide)
      (value_skip_string (l := "2.0".data) (by rfl) (by decide) _) (by rfl) _).trans <|
    (members_skip_comma (k := "id".data) (by rfl) (by decide)
      (value_skip_nat id (by rfl) (endsNumber_cons (by decide) _) _) (by rfl) _).trans <|
    (members_skip_comma (k := "method".data) (by rfl) (by decide)
      (value_skip_string (l := method.data) (by rfl) hm _) (by rfl) _).trans <|
    members_skip_close (k := "params".data) (by rfl) (by decide)
      ((value_skip_object (by rfl) (by rfl) _).trans <|
        members_skip_close (k := "channels".data) (by rfl) (by decide)
          ((value_skip_array (by rfl) (by rfl) _).trans <|
            elements_skip_close (value_skip_string (l := (bookChannel instrument).data) (by rfl)
              (plain_bookChannel hi) _) (by rfl) [])
          (by rfl) [])
      (by rfl) _

/-- **The link asks for the instrument's book channel.** For every instrument of plain
characters, the subscription text is the JSON-RPC request `public/subscribe` with id 3600 and
the one channel `book.<instrument>.none.10.100ms`, and the unsubscription text is
`public/unsubscribe` with id 8691 and the same channel. -/
theorem channel_request_law {instrument : String} (hi : ∀ c ∈ instrument.data, plain c) :
    decode (subscribeToOrderbook instrument) = some (rpcRequest 3600 "public/subscribe"
      [("channels", .array [.string (bookChannel instrument)])]) ∧
    decode (unsubscribeFromOrderbook instrument) = some (rpcRequest 8691 "public/unsubscribe"
      [("channels", .array [.string (bookChannel instrument)])]) :=
  ⟨decode_channelRequest 3600 (by decide) hi, decode_channelRequest 8691 (by decide) hi⟩

/-- The law's premise holds of the instrument `main` subscribes first. -/
theorem channel_request_law_btc :
    (∀ c ∈ "BTC-PERPETUAL".data, plain c) ∧
    (decode (subscribeToOrderbook "BTC-PERPETUAL") = some (rpcRequest 3600 "public/subscribe"
      [("channels", .array [.string (bookChannel "BTC-PERPETUAL")])]) ∧
    decode (unsubscribeFromOrderbook "BTC-PERPETUAL") = some (rpcRequest 8691 "public/unsubscribe"
      [("channels", .array [.string (bookChannel "BTC-PERPETUAL")])])) :=
  ⟨by decide, channel_request_law (by decide)⟩

set_option maxRecDepth 2000 in
/-- An instrument name that closes the channel's string adds a second channel. -/
example : decode (subscribeToOrderbook "BTC-PERPETUAL.none.10.100ms\", \"book.ETH-PERPETUAL") =
    some (rpcRequest 3600 "public/subscribe" [("channels", .array
      [.string "book.BTC-PERPETUAL.none.10.100ms", .string "book.ETH-PERPETUAL.none.10.100ms"])]) :=
  rfl

/-- **The session authenticates with the client's credentials.** For a client id and secret of
plain characters, the text `authenticate` writes is the JSON-RPC request `public/auth` with id
9929, the grant `client_credentials`, and the id and secret, in that order. -/
theorem auth_request_law {auth : Auth} (hid : ∀ c ∈ auth.clientId.data, plain c)
    (hsecret : ∀ c ∈ auth.clientSecret.data, plain c) :
    decode (authenticate auth) = some (rpcRequest 9929 "public/auth"
      [("grant_type", .string "client_credentials"), ("client_id", .string auth.clientId),
        ("client_secret", .string auth.clientSecret)]) := by
  have hlen : 9 ≤ (authenticate auth).length := by
    have hline : 9 ≤ "  \"jsonrpc\": \"2.0\",\n".length := by decide
    simp only [authenticate, String.length_append]
    omega
  refine decode_of_value 9 hlen fun f => ?_
  simp only [authenticate, String.data_append, List.append_assoc]
  exact (value_skip_object (by rfl) (by rfl) _).trans <|
    (members_skip_comma (k := "jsonrpc".data) (by rfl) (by decide)
      (value_skip_string (l := "2.0".data) (by rfl) (by decide) _) (by rfl) _).trans <|
    (members_skip_comma (k := "id".data) (by rfl) (by decide)
      (value_skip_nat 9929 (by rfl) (endsNumber_cons (by decide) _) _) (by rfl) _).trans <|
    (members_skip_comma (k := "method".data) (by rfl) (by decide)
      (value_skip_string (l := "public/auth".data) (by rfl) (by decide) _) (by rfl) _).trans <|
    members_skip_close (k := "params".data) (by rfl) (by decide)
      ((value_skip_object (by rfl) (by rfl) _).trans <|
        (members_skip_comma (k := "grant_type".data) (by rfl) (by decide)
          (value_skip_string (l := "client_credentials".data) (by rfl) (by decide) _)
          (by rfl) _).trans <|
        (members_skip_comma (k := "client_id".data) (by rfl) (by decide)
          (value_skip_string (l := auth.clientId.data) (by rfl) hid _) (by rfl) _).trans <|
        members_skip_close (k := "client_secret".data) (by rfl) (by decide)
          (value_skip_string (l := auth.clientSecret.data) (by rfl) hsecret _) (by rfl) _)
      (by rfl) _

/-- The law's premise holds of the credentials `main` sets (main.cpp, lines 68-70). -/
theorem auth_request_law_main :
    (∀ c ∈ "m_B5zE25".data, plain c) ∧ (∀ c ∈ "qwHcammuk8D-MEK4idg8urGt_ZAkfk4r_MuIzT9v1LE".data, plain c) ∧
    decode (authenticate ⟨"m_B5zE25", "qwHcammuk8D-MEK4idg8urGt_ZAkfk4r_MuIzT9v1LE"⟩) =
      some (rpcRequest 9929 "public/auth" [("grant_type", .string "client_credentials"),
        ("client_id", .string "m_B5zE25"),
        ("client_secret", .string "qwHcammuk8D-MEK4idg8urGt_ZAkfk4r_MuIzT9v1LE")]) :=
  ⟨by decide, by decide, auth_request_law (by decide) (by decide)⟩

end DeribitTrader.ApiClient
