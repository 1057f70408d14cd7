import Gundrak.Accounts.PermissionOrder
import Gundrak.Arenas.Loading
import Gundrak.Arenas.MembershipRuns
import Gundrak.Auctions.SellItem
import Gundrak.Auth.InputHandling
import Gundrak.Auth.RealmListReply
import Gundrak.Battlegrounds.Balancing
import Gundrak.Battlegrounds.CrossFaction
import Gundrak.Calendar.PlayerCleanup
import Gundrak.Calendar.UniqueIds
import Gundrak.Chat.LinkScanning
import Gundrak.Chat.Ownership
import Gundrak.Combat.DamageConservation
import Gundrak.Combat.ThreatOrder
import Gundrak.Combat.VictimChoice
import Gundrak.Database.UpdatesApplied
import Gundrak.DungeonFinding.FindNewGroups
import Gundrak.DungeonFinding.RoleAssignment
import Gundrak.DungeonFinding.VoteKick
import Gundrak.Events.EventOwnership
import Gundrak.Events.Scheduling
import Gundrak.GameEvents.NextCheck
import Gundrak.Groups.Bookkeeping
import Gundrak.Groups.RollCompletion
import Gundrak.Groups.RollOutcome
import Gundrak.Guilds.BankLimits
import Gundrak.Guilds.GuildLogs
import Gundrak.Guilds.Validation
import Gundrak.Instances.InstanceIds
import Gundrak.Instances.InstanceResets
import Gundrak.Instances.ResetTimes
import Gundrak.Items.PresetLoading
import Gundrak.Items.ReforgeAccounting
import Gundrak.Loot.CurrencyTokens
import Gundrak.Loot.LootItemStorage
import Gundrak.Loot.LootMgr
import Gundrak.Mails.MailConservation
import Gundrak.Players.Buyback
import Gundrak.Players.DestroyedCount
import Gundrak.Players.SplitItem
import Gundrak.Pools.CircularReferences
import Gundrak.Pools.QuestPools
import Gundrak.Pools.RespawnSlots
import Gundrak.Reputation.AtWar
import Gundrak.Reputation.Counters
import Gundrak.Server.PackedTime
import Gundrak.Server.PacketInput
import Gundrak.Server.PacketOutput
import Gundrak.Server.UnauthenticatedInput
import Gundrak.Spells.CategoryCooldowns
import Gundrak.Spells.CooldownPackets
import Gundrak.Tasks.TaskScheduler
import Gundrak.Text.DurationText
import Gundrak.Trades.Consent
import Gundrak.Trades.ItemTransfer
import Gundrak.Warden.WardenWin
import Gundrak.World.AllocationReset
import Gundrak.World.BossRewards
import Gundrak.World.PvpKills
import Gundrak.World.SessionQueue
import Gundrak.World.TalentPurchase
import Gundrak.World.UpgradeRanks
