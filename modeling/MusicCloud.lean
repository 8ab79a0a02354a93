import MusicCloud.Runs
import MusicCloud.Tables
import MusicCloud.SessionUpdateQueue
import MusicCloud.UpdateDelivery
import MusicCloud.Songs
import MusicCloud.Database
import MusicCloud.Server
import MusicCloud.SongManager
import MusicCloud.Handlers
import MusicCloud.Results
import MusicCloud.Playback
import MusicCloud.Acts
import MusicCloud.PlaybackState
import MusicCloud.SessionState
import MusicCloud.Statistics
import MusicCloud.StatusReports
import MusicCloud.NextSong
import MusicCloud.Effects
import MusicCloud.Ledgers
import MusicCloud.Voting
import MusicCloud.Likes
import MusicCloud.Requests
import MusicCloud.Guests
import MusicCloud.Interleavings
import MusicCloud.SessionIdentity
import MusicCloud.StoppedReports
import MusicCloud.Totals
import MusicCloud.Skipping
import MusicCloud.Convergence
import MusicCloud.Transactions
import MusicCloud.SharedConnection
import MusicCloud.SkipTimer
import MusicCloud.Speaker
import MusicCloud.SpeakerDownloads
import MusicCloud.SpeakerThreads
import MusicCloud.PlayingFile
import MusicCloud.SpeakerPlayback
import MusicCloud.Joining
import MusicCloud.LongPolling
import MusicCloud.OneSpeaker
import MusicCloud.Party
import MusicCloud.Situations
import MusicCloud.PartySteps
import MusicCloud.Authenticating
import MusicCloud.SongAgreement
import MusicCloud.SpeakerMessages
import MusicCloud.Following
import MusicCloud.Fetching
import MusicCloud.Renewing
import MusicCloud.Waking
import MusicCloud.DeadStates
import MusicCloud.SessionLifetimes
import MusicCloud.ParkedRequests
import MusicCloud.Calls
import MusicCloud.SongChoice
import MusicCloud.LeastRecent
import MusicCloud.RoundRobin
import MusicCloud.OneTimer
import MusicCloud.SongTimer
import MusicCloud.SongStart
import MusicCloud.FailedStarts
import MusicCloud.Decimals
import MusicCloud.Doubles
import MusicCloud.Affinity
import MusicCloud.MusicLoading
import MusicCloud.Json
import MusicCloud.UpdateBodies
import MusicCloud.Relational
import MusicCloud.PhonesApart
import MusicCloud.SongList
import MusicCloud.Succession
import MusicCloud.CachedSong
import MusicCloud.RejectedReactions
import MusicCloud.SessionCreation
import MusicCloud.FairPolls
import MusicCloud.SpeakerFailures
import MusicCloud.UpcomingSongs
import MusicCloud.SpeakerReports
import MusicCloud.RequestNames
import MusicCloud.Dispatch
import MusicCloud.Responses
import MusicCloud.Answers
import MusicCloud.Buffers
import MusicCloud.SongData
import MusicCloud.UpdateLoop
import MusicCloud.Comparisons
import MusicCloud.SongOrder
import MusicCloud.RowMoves
import MusicCloud.PartyView
import MusicCloud.PendingWrites
import MusicCloud.Crawler
import MusicCloud.UpdateTexts
import MusicCloud.KnownSongs
import MusicCloud.StatusTexts
import MusicCloud.WireParty
import MusicCloud.Mirrors
import MusicCloud.UserUpdates
import MusicCloud.PhoneUpdates
import MusicCloud.PartyScreen
import MusicCloud.PhoneParty
import MusicCloud.PhoneSteps
import MusicCloud.PhoneArrivals
import MusicCloud.PhoneRuns
import MusicCloud.CatchingUp
import MusicCloud.CrawledLibrary
import MusicCloud.DeviceRequests
import MusicCloud.DeviceRuns
import MusicCloud.LoginScreen
import MusicCloud.AlbumArt
import MusicCloud.PhoneVotes
import MusicCloud.WirePhone
