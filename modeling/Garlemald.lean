import Garlemald.Library.Utf8
import Garlemald.Library.Runs
import Garlemald.Library.Table
import Garlemald.Library.AutoTable
import Garlemald.Library.Fallible
import Garlemald.Library.Feistel
import Garlemald.Common.BasePacket
import Garlemald.Common.ReadLoop
import Garlemald.Common.Container
import Garlemald.Common.Decoders
import Garlemald.Common.Migrations
import Garlemald.Common.Encryption
import Garlemald.Common.FastPaths
import Garlemald.Common.LuaParam
import Garlemald.Map.WorldPackets
import Garlemald.Map.Handshake
import Garlemald.World.Receive
import Garlemald.Link.ControlCodec
import Garlemald.World.Data
import Garlemald.World.Managers
import Garlemald.World.Processor
import Garlemald.World.Supersession
import Garlemald.Link.ControlDispatch
import Garlemald.Map.Session
import Garlemald.Link.Handshake
import Garlemald.World.ClientFrames
import Garlemald.Link.DuplicateLogin
import Garlemald.World.PartyMembership
import Garlemald.Inventory.ItemPackage
import Garlemald.Inventory.Operations
import Garlemald.Inventory.Edits
import Garlemald.Inventory.Effects
import Garlemald.Inventory.Representation
import Garlemald.Inventory.ClientMirror
import Garlemald.Inventory.Stacking
import Garlemald.Inventory.Requests
import Garlemald.Inventory.Rows
import Garlemald.Inventory.Journal
import Garlemald.Inventory.Referenced
import Garlemald.Inventory.Equipment
import Garlemald.Lua.Scheduler
import Garlemald.Lua.EventIsolation
import Garlemald.Lua.WakeUps
import Garlemald.Status.Container
import Garlemald.Status.Slots
import Garlemald.Status.Shown
import Garlemald.Status.IconSteps
import Garlemald.Status.IconMirror
import Garlemald.Status.Persistence
import Garlemald.Status.Deadlines
import Garlemald.Lobby.CharaInfo
import Garlemald.Lobby.Database
import Garlemald.Lobby.NameUniqueness
import Garlemald.Lobby.Processor
import Garlemald.Lobby.Confinement
import Garlemald.Lobby.Requests
import Garlemald.Lobby.Authorisation
import Garlemald.Library.Varint
import Garlemald.Lobby.CharaList
import Garlemald.Lobby.ListPackets
import Garlemald.Lobby.Lists
import Garlemald.Common.Blowfish
import Garlemald.World.Linkshells
import Garlemald.Library.F64
import Garlemald.Actor.Pools
import Garlemald.Actor.StatPipeline
import Garlemald.Actor.Hotbar
import Garlemald.Actor.HotbarMirror
import Garlemald.Battle.Controller
import Garlemald.Battle.AIContainer
import Garlemald.Battle.Death
import Garlemald.Battle.CastBrackets
import Garlemald.Battle.Casters
import Garlemald.Battle.Disengage
import Garlemald.Library.Truncation
import Garlemald.Library.Stacks
import Garlemald.Library.Batch
import Garlemald.Library.Layout
import Garlemald.Library.Cooldown
import Garlemald.Battle.Swings
import Garlemald.Battle.SwingCadence
import Garlemald.Library.WriteBack
import Garlemald.Library.WriteBehind
import Garlemald.Zone.Area
import Garlemald.Zone.Grid
import Garlemald.Zone.Nearby
import Garlemald.Zone.Despawn
import Garlemald.Packets.Inventory
import Garlemald.Packets.Groups
import Garlemald.Packets.CommandResults
import Garlemald.Common.Murmur
import Garlemald.Packets.ActorProperty
import Garlemald.Quest.Markers
import Garlemald.Quest.TurnIn
import Garlemald.Common.Bitstream
import Garlemald.Quest.Journal
import Garlemald.Quest.Persistence
import Garlemald.Quest.Progress
import Garlemald.Storage.Bazaar
import Garlemald.Storage.Purchase
import Garlemald.Storage.Retainers
import Garlemald.Storage.Isolation
import Garlemald.Storage.Equipment
import Garlemald.Storage.Grants
import Garlemald.Storage.Ledger
import Garlemald.Storage.Dealings
import Garlemald.Library.KeyedView
import Garlemald.Storage.Runtime
import Garlemald.Storage.RuntimeRows
import Garlemald.Storage.RuntimeGrants
import Garlemald.Storage.RuntimeMirror
import Garlemald.Npc.ActorId
import Garlemald.Npc.Spawner
import Garlemald.Zone.Location
import Garlemald.Content.Teardown
import Garlemald.Battle.HitPoints
import Garlemald.Battle.KillRewards
import Garlemald.Zone.Mirror
import Garlemald.Zone.WorldLoad
import Garlemald.Map.Updates
import Garlemald.Zone.Stream
import Garlemald.Event.Dispatcher
import Garlemald.Event.Answers
import Garlemald.Npc.SpawnRuns
import Garlemald.Lua.Absence
import Garlemald.Zone.Absence
import Garlemald.Map.Logout
import Garlemald.Map.LogoutTraces
import Garlemald.Map.Outbound
import Garlemald.Map.OutboundFrames
import Garlemald.Common.ActorIds
import Garlemald.Common.LoginString
import Garlemald.Common.Compression
import Garlemald.Common.EncryptionErrors
import Garlemald.Status.Refusals
import Garlemald.Status.Relogs
import Garlemald.Library.Slots
import Garlemald.Inventory.Contents
import Garlemald.Inventory.Removal
import Garlemald.Inventory.Exclusive
import Garlemald.Inventory.Moves
import Garlemald.Lobby.Making
import Garlemald.Common.MurmurReference
import Garlemald.Content.Director
import Garlemald.Library.Ladder
import Garlemald.Quest.Levels
import Garlemald.Battle.Mitigation
import Garlemald.Battle.TargetFind
import Garlemald.Packets.Search
import Garlemald.Packets.Capacities
import Garlemald.Packets.Capacities
import Garlemald.Lobby.EntryRoom
import Garlemald.Library.Hoist
import Garlemald.Event.EndEvents
import Garlemald.Quest.Rested
import Garlemald.Library.Accrual
import Garlemald.Quest.InnRest
import Garlemald.Content.DirectorRegistry
import Garlemald.Quest.Leves
import Garlemald.Storage.SealAwards
import Garlemald.Quest.LevePay
import Garlemald.Storage.HarvestRoom
import Garlemald.Storage.ItemPackages
import Garlemald.Packets.GroupSync
import Garlemald.Quest.PartyRoster
import Garlemald.Content.KillGate
import Garlemald.Battle.Hate
import Garlemald.Actor.Rental
import Garlemald.Library.FileTree
import Garlemald.Lua.Paths
import Garlemald.Npc.MyRetainer
import Garlemald.Lobby.Conversation
import Garlemald.Content.Guildleve
import Garlemald.Crafting.Resolver
