import DreamHeroes.ByteWords
import DreamHeroes.DecimalText
import DreamHeroes.LabelledRuns
import DreamHeroes.OrderedMaps
import DreamHeroes.CountdownTimers
import DreamHeroes.TcpSession
import DreamHeroes.ProtocBuffer
import DreamHeroes.SuitText
import DreamHeroes.ObjMap
import DreamHeroes.GateServer
import DreamHeroes.GateMaps
import DreamHeroes.GateKick
import DreamHeroes.GateExclusive
import DreamHeroes.GateAccounts
import DreamHeroes.GateReconnect
import DreamHeroes.GameHero
import DreamHeroes.GameServer
import DreamHeroes.GameTurns
import DreamHeroes.SessionLinks
import DreamHeroes.DatabaseTasks
import DreamHeroes.HeroRows
import DreamHeroes.Checksum
import DreamHeroes.MessageInterface
import DreamHeroes.SendQueue
import DreamHeroes.ClientSending
import DreamHeroes.StaleSaves
import DreamHeroes.EquipIds
import DreamHeroes.LoginServer
import DreamHeroes.TransIds
import DreamHeroes.LoginDeliveries
import DreamHeroes.GateRegistrations
import DreamHeroes.SessionPool
import DreamHeroes.GatePlaces
import DreamHeroes.GameHolds
import DreamHeroes.GateGames
import DreamHeroes.DatabaseThreads
import DreamHeroes.SaveToClose
import DreamHeroes.SaveText
import DreamHeroes.SafeSql
import DreamHeroes.HeroRequests
import DreamHeroes.SprintfBounds
import DreamHeroes.RequiredFields
import DreamHeroes.SoleHolders
import DreamHeroes.ToyOwners
import DreamHeroes.ToyAnswers
import DreamHeroes.HeroPointers
import DreamHeroes.SqlRows
import DreamHeroes.StoredToys
import DreamHeroes.SuitIds
import DreamHeroes.WalkedLists
import DreamHeroes.EventTables
import DreamHeroes.EventReferences
import DreamHeroes.EventTurns
import DreamHeroes.ServerFrames
import DreamHeroes.EventHolders
import DreamHeroes.QueuePolls
import DreamHeroes.TcpMessages
import DreamHeroes.ThreadBuffers
import DreamHeroes.GateSlots
import DreamHeroes.DeletedSuits
import DreamHeroes.SavedRows
import DreamHeroes.EquipChunks
import DreamHeroes.EquipLevels
import DreamHeroes.BannedIps
import DreamHeroes.GateIdle
import DreamHeroes.EventRepeats
import DreamHeroes.PendingEvents
import DreamHeroes.ErasedIterators
import DreamHeroes.BufferManager
import DreamHeroes.CutLists
import DreamHeroes.StringSplits
import DreamHeroes.Substitutions
import DreamHeroes.CharacterTables
import DreamHeroes.SslCrypt
import DreamHeroes.BufferBounds
import DreamHeroes.ChecksumWindows
import DreamHeroes.ForgedMessages
import DreamHeroes.SessionTimeouts
import DreamHeroes.GateBalance
import DreamHeroes.ConnectRaces
import DreamHeroes.HeroLoads
import DreamHeroes.GateAdmissions
import DreamHeroes.ServerStops
import DreamHeroes.LoginAnswers
import DreamHeroes.AcceptLimits
import DreamHeroes.CarriedMessages
import DreamHeroes.BlockFolds
import DreamHeroes.Md5Digests
import DreamHeroes.OwnAnswers
import DreamHeroes.Unwinding
import DreamHeroes.PlayersApart
