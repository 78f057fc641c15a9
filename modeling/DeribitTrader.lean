import DeribitTrader.Container
import DeribitTrader.Prog
import DeribitTrader.Interleave
import DeribitTrader.Guarded
import DeribitTrader.Text
import DeribitTrader.Json
import DeribitTrader.JsonText
import DeribitTrader.Server.State
import DeribitTrader.Server.Commands
import DeribitTrader.Server.Mirror
import DeribitTrader.Server.Reach
import DeribitTrader.Server.Connection
import DeribitTrader.Server.Isolation
import DeribitTrader.Server.Broadcast
import DeribitTrader.Orders.State
import DeribitTrader.Orders.Lifecycle
import DeribitTrader.Orders.Registry
import DeribitTrader.Market.State
import DeribitTrader.Market.Ingest
import DeribitTrader.Discipline
import DeribitTrader.Market.Session
import DeribitTrader.Market.Streams
import DeribitTrader.Market.Subscriptions
import DeribitTrader.Concurrency
import DeribitTrader.Link
import DeribitTrader.Pipeline
