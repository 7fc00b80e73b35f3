import ElectroSync.Library.Run
import ElectroSync.Library.Throwing
import ElectroSync.Library.Batches
import ElectroSync.Library.Grouping
import ElectroSync.Library.Interleaving
import ElectroSync.Alerts.BalanceSweep
import ElectroSync.Alerts.Crossings
import ElectroSync.Alerts.MoneyConservation
import ElectroSync.Alerts.SweepExclusion
import ElectroSync.Alerts.RechargeAlerts
import ElectroSync.Alerts.FailedPolls
import ElectroSync.Alerts.AnomalyMarker
import ElectroSync.Alerts.RechargeCredits
import ElectroSync.Analytics.Conservation
import ElectroSync.User.SettingsDomain
import ElectroSync.Auth.PasswordResetRuns
import ElectroSync.Auth.AttemptCeiling
import ElectroSync.Auth.SingleUse
import ElectroSync.Auth.AccountDisclosure
import ElectroSync.Library.RateLimit
import ElectroSync.Auth.SendThrottle
import ElectroSync.Meter.Serializability
import ElectroSync.Alerts.AnomalyDay
import ElectroSync.Alerts.SteadyUsage
import ElectroSync.Alerts.SettlementDay
import ElectroSync.Analytics.Aggregation
import ElectroSync.Library.Calendar
import ElectroSync.Library.Matcher
import ElectroSync.Nesco.Parsing
import ElectroSync.Nesco.PrintedDates
import ElectroSync.Nesco.DateDecoding
import ElectroSync.Nesco.RenderedDates
import ElectroSync.Nesco.DateMeaning
import ElectroSync.Common.PhoneNumber
import ElectroSync.Mail.AlertTemplate
import ElectroSync.Notification.Fcm
import ElectroSync.Notification.NotificationService
import ElectroSync.Notification.Channels
import ElectroSync.Notification.Calls
import ElectroSync.Notification.DeviceTokens
import ElectroSync.Notification.ReadTimes
import ElectroSync.Auth.AuthService
import ElectroSync.Auth.EmailIdentity
import ElectroSync.Alerts.BadReadings
import ElectroSync.Alerts.AnomalyDecision
import ElectroSync.Auth.RetryAfter
import ElectroSync.Analytics.Coverage
import ElectroSync.Analytics.Series
import ElectroSync.Library.JsNumber
import ElectroSync.Library.Related
import ElectroSync.Nesco.Amounts
import ElectroSync.Nesco.ColumnOrder
import ElectroSync.Analytics.CalendarDates
import ElectroSync.Config.SweepSchedule
import ElectroSync.Library.Filling
import ElectroSync.Library.Markup
import ElectroSync.Mail.Escaping
import ElectroSync.Notification.PushBatches
import ElectroSync.Sms.Encoding
import ElectroSync.Sms.Segments
import ElectroSync.Sms.SmsService
import ElectroSync.Alerts.SweepRuns
import ElectroSync.Auth.AccountServer
import ElectroSync.Auth.Sessions
import ElectroSync.Nesco.CustomerPage
import ElectroSync.Library.Cookies
import ElectroSync.Library.Alike
import ElectroSync.Nesco.NescoService
import ElectroSync.Nesco.PortalExchange
import ElectroSync.Notification.Inbox
