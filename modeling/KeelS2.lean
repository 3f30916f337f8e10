import KeelS2.Adapter.ConVarSet
import KeelS2.Adapter.EntityEpochs
import KeelS2.Adapter.NativeOutputLaw
import KeelS2.Adapter.ObserverLaw
import KeelS2.Booting.HostLibrary
import KeelS2.Compatibility.EvidenceLaw
import KeelS2.Compatibility.ImageReader
import KeelS2.Compatibility.Regions
import KeelS2.ConVars.Releases
import KeelS2.Cs2.ConstructionKeys
import KeelS2.Cs2.DamageRecords
import KeelS2.Cs2.FieldAccess
import KeelS2.Cs2.NativeConstruction
import KeelS2.Entities.OutputLaw
import KeelS2.Entities.TokenLaw
import KeelS2.Hooking.InstanceVtable
import KeelS2.Hosting.Locks
import KeelS2.Hosting.Replacements
import KeelS2.Hosting.Source2Dispatch
import KeelS2.Hosting.StartStop
import KeelS2.Hosting.Subscriptions
import KeelS2.KeelHook.AggregateGraph
import KeelS2.KeelHook.DirectCallLaw
import KeelS2.KeelHook.FrameHeader
import KeelS2.KeelHook.PatternText
import KeelS2.KeelHook.ReleaseLaw
import KeelS2.KeelHook.ThreadStacks
import KeelS2.Platform.PrimaryVtable
import KeelS2.Players.Connections
import KeelS2.Plugins.DeferralLaw
import KeelS2.Plugins.DiscoveryOrder
import KeelS2.Plugins.EventLaw
import KeelS2.Plugins.PublishedServiceRegistry
import KeelS2.Plugins.ReachedStates
import KeelS2.Plugins.SemanticVersion
import KeelS2.Plugins.UnloadAllLaw
import KeelS2.Sdk.CallbackObjects
import KeelS2.Sdk.EntityLaw
import KeelS2.Sdk.LogFormat
import KeelS2.Sdk.ReferenceLaw
