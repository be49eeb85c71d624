import TypeDBDriver.Concept.DurationRoundTrip
import TypeDBDriver.Answer.InstantProperties
import TypeDBDriver.Answer.IntegerProperties
import TypeDBDriver.Network.DocumentRendering
import TypeDBDriver.Network.ExchangeProperties
import TypeDBDriver.Network.RpcTransmitter
import TypeDBDriver.Network.BatchProperties
import TypeDBDriver.Connection.LifecycleProperties
import TypeDBDriver.Transaction.CommitProperties
import TypeDBDriver.Transaction.CompletenessProperties
import TypeDBDriver.Database.FailoverProperties
import TypeDBDriver.Database.ConcurrentManagerProperties
import TypeDBDriver.Ffi.DatabaseApiProperties
import TypeDBDriver.Python.HandleProperties
import TypeDBDriver.Java.HandleProperties
import TypeDBDriver.Python.OnCloseProperties
import TypeDBDriver.Ffi.RowApiProperties
import TypeDBDriver.Nodejs.FailoverProperties
import TypeDBDriver.Nodejs.ConnectionProperties
import TypeDBDriver.Nodejs.LifecycleProperties
import TypeDBDriver.Connection.LatencyTracker
import TypeDBDriver.Connection.ShutdownSenders
import TypeDBDriver.Database.CacheFrame
import TypeDBDriver.Python.OwnershipProperties
import TypeDBDriver.Python.DurationProperties
import TypeDBDriver.Java.DurationRoundTrip
import TypeDBDriver.Concept.DriverDecimals
import TypeDBDriver.Nodejs.TransmitterProperties
import TypeDBDriver.Nodejs.ClosingProperties
import TypeDBDriver.Java.NativeIterator
import TypeDBDriver.Python.IteratorWrapper
import TypeDBDriver.Python.DatetimeText
import TypeDBDriver.Nodejs.NetworkLatency
import TypeDBDriver.Cpp.DateTime
import TypeDBDriver.Csharp.DateTime
import TypeDBDriver.Csharp.ConceptMap
import TypeDBDriver.Nodejs.ConceptMap
import TypeDBDriver.Nodejs.Value
import TypeDBDriver.Nodejs.DatabaseCache
import TypeDBDriver.Nodejs.CollectorProperties
import TypeDBDriver.Cpp.JsonRoundTrip
import TypeDBDriver.Cpp.JsonAssignment
