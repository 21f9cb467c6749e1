/-!
# Dictionary words of fourteen to twenty-four bytes

The words of each length stand one after another, in hexadecimal digits.
-/
namespace StreamCodec.Format.Brotli.Words

def fourteen : List String := [
  "223e3c64697620636c6173733d22646973616d626967756174696f6e446f6d61696e4e616d65272c2027",
  "61646d696e697374726174696f6e73696d756c74616e656f75736c797472616e73706f72746174696f6e",
  "496e7465726e6174696f6e616c206d617267696e2d626f74746f6d3a726573706f6e736962696c697479",
  "3c215b656e6469665d2d2d3e0a3c2f3e3c6d657461206e616d653d22696d706c656d656e746174696f6e",
  "696e667261737472756374757265726570726573656e746174696f6e626f726465722d626f74746f6d3a",
  "3c2f686561643e0a3c626f64793e3d687474702533412532462532463c666f726d206d6574686f643d22",
  "6d6574686f643d22706f737422202f66617669636f6e2e69636f22207d293b0a3c2f7363726970743e0a",
  "2e7365744174747269627574652841646d696e697374726174696f6e3d206e657720417272617928293b",
  "3c215b656e6469665d2d2d3e0d0a646973706c61793a626c6f636b3b556e666f7274756e6174656c792c",
  "223e266e6273703b3c2f6469763e2f66617669636f6e2e69636f223e3d277374796c6573686565742720",
  "6964656e74696669636174696f6e2c20666f72206578616d706c652c3c6c693e3c6120687265663d222f",
  "616e20616c7465726e61746976656173206120726573756c74206f667074223e3c2f7363726970743e0a",
  "747970653d227375626d697422200a2866756e6374696f6e2829207b7265636f6d6d656e646174696f6e",
  "666f726d20616374696f6e3d222f7472616e73666f726d6174696f6e7265636f6e737472756374696f6e",
  "2e7374796c652e646973706c6179204163636f7264696e6720746f2068696464656e22206e616d653d22",
  "616c6f6e67207769746820746865646f63756d656e742e626f64792e617070726f78696d6174656c7920",
  "436f6d6d756e69636174696f6e73706f73742220616374696f6e3d226d65616e696e67202671756f743b",
  "2d2d3c215b656e6469665d2d2d3e5072696d65204d696e69737465726368617261637465726973746963",
  "3c2f613e203c6120636c6173733d74686520686973746f7279206f66206f6e6d6f7573656f7665723d22",
  "74686520676f7665726e6d656e74687265663d2268747470733a2f2f776173206f726967696e616c6c79",
  "77617320696e74726f6475636564636c617373696669636174696f6e726570726573656e746174697665",
  "61726520636f6e736964657265643c215b656e6469665d2d2d3e0a0a646570656e6473206f6e20746865",
  "556e6976657273697479206f6620696e20636f6e747261737420746f20706c616365686f6c6465723d22",
  "696e207468652063617365206f66696e7465726e6174696f6e616c20636f6e737469747574696f6e616c",
  "7374796c653d22626f726465722d3a2066756e6374696f6e2829207b42656361757365206f6620746865",
  "2d7374726963742e647464223e0a3c7461626c6520636c6173733d226163636f6d70616e696564206279",
  "6163636f756e74206f66207468653c736372697074207372633d222f6e6174757265206f662074686520",
  "7468652070656f706c6520696e20696e206164646974696f6e20746f73293b206a732e6964203d206964",
  "222077696474683d223130302522726567617264696e672074686520526f6d616e20436174686f6c6963",
  "616e20696e646570656e64656e74666f6c6c6f77696e6720746865202e676966222077696474683d2231",
  "74686520666f6c6c6f77696e67206469736372696d696e6174696f6e6172636861656f6c6f676963616c",
  "7072696d65206d696e69737465722e6a73223e3c2f7363726970743e636f6d62696e6174696f6e206f66",
  "206d617267696e77696474683d22637265617465456c656d656e7428772e6174746163684576656e7428",
  "3c2f613e3c2f74643e3c2f74723e7372633d2268747470733a2f2f61496e20706172746963756c61722c",
  "20616c69676e3d226c6566742220437a6563682052657075626c6963556e69746564204b696e67646f6d",
  "636f72726573706f6e64656e6365636f6e636c7564656420746861742e68746d6c22207469746c653d22",
  "2866756e6374696f6e202829207b636f6d65732066726f6d207468656170706c69636174696f6e206f66",
  "3c7370616e20636c6173733d227362656c696576656420746f206265656d656e74282773637269707427",
  "3c2f613e0a3c2f6c693e0a3c6c697665727920646966666572656e743e3c7370616e20636c6173733d22",
  "6f7074696f6e2076616c75653d2228616c736f206b6e6f776e206173093c6c693e3c6120687265663d22",
  "3e3c696e707574206e616d653d227365706172617465642066726f6d726566657272656420746f206173",
  "2076616c69676e3d22746f70223e666f756e646572206f6620746865617474656d7074696e6720746f20",
  "636172626f6e2064696f786964650a0a3c64697620636c6173733d22636c6173733d227365617263682d",
  "2f626f64793e0a3c2f68746d6c3e6f70706f7274756e69747920746f636f6d6d756e69636174696f6e73",
  "3c2f686561643e0d0a3c626f6479207374796c653d2277696474683a5469e1babf6e67205669e1bb8774",
  "6368616e67657320696e20746865626f726465722d636f6c6f723a23302220626f726465723d22302220",
  "3c2f7370616e3e3c2f6469763e3c77617320646973636f76657265642220747970653d22746578742220",
  "293b0a3c2f7363726970743e0a0a4465706172746d656e74206f66206563636c6573696173746963616c",
  "746865726520686173206265656e726573756c74696e672066726f6d3c2f626f64793e3c2f68746d6c3e",
  "686173206e65766572206265656e7468652066697273742074696d65696e20726573706f6e736520746f",
  "6175746f6d61746963616c6c79203c2f6469763e0a0a3c646976206977617320636f6e73696465726564",
  "70657263656e74206f662074686522202f3e3c2f613e3c2f6469763e636f6c6c656374696f6e206f6620",
  "64657363656e6465642066726f6d73656374696f6e206f66207468656163636570742d63686172736574",
  "746f20626520636f6e66757365646d656d626572206f66207468652070616464696e672d72696768743a",
  "7472616e736c6174696f6e206f66696e746572707265746174696f6e20687265663d27687474703a2f2f",
  "77686574686572206f72206e6f7454686572652061726520616c736f746865726520617265206d616e79",
  "6120736d616c6c206e756d6265726f74686572207061727473206f66696d706f737369626c6520746f20",
  "20636c6173733d22627574746f6e6c6f636174656420696e207468652e20486f77657665722c20746865",
  "616e64206576656e7475616c6c7941742074686520656e64206f662062656361757365206f6620697473",
  "726570726573656e7473207468653c666f726d20616374696f6e3d22206d6574686f643d22706f737422",
  "697420697320706f737369626c656d6f7265206c696b656c7920746f616e20696e63726561736520696e",
  "6861766520616c736f206265656e636f72726573706f6e647320746f616e6e6f756e6365642074686174",
  "616c69676e3d227269676874223e6d616e7920636f756e7472696573666f72206d616e79207965617273",
  "6561726c69657374206b6e6f776e62656361757365206974207761737074223e3c2f7363726970743e0d",
  "2076616c69676e3d22746f702220696e6861626974616e7473206f66666f6c6c6f77696e672079656172",
  "0d0a3c64697620636c6173733d226d696c6c696f6e2070656f706c65636f6e74726f7665727369616c20",
  "636f6e6365726e696e67207468656172677565207468617420746865676f7665726e6d656e7420616e64",
  "61207265666572656e636520746f7472616e7366657272656420746f64657363726962696e6720746865",
  "207374796c653d22636f6c6f723a616c74686f75676820746865726562657374206b6e6f776e20666f72",
  "7375626d697422206e616d653d226d756c7469706c69636174696f6e6d6f7265207468616e206f6e6520",
  "7265636f676e6974696f6e206f66436f756e63696c206f662074686565646974696f6e206f6620746865",
  "20203c6d657461206e616d653d22456e7465727461696e6d656e7420617761792066726f6d2074686520",
  "3b6d617267696e2d72696768743a6174207468652074696d65206f66696e7665737469676174696f6e73",
  "636f6e6e65637465642077697468616e64206d616e79206f74686572616c74686f756768206974206973",
  "626567696e6e696e672077697468203c7370616e20636c6173733d2264657363656e64616e7473206f66",
  "3c7370616e20636c6173733d226920616c69676e3d227269676874223c2f686561643e0a3c626f647920",
  "61737065637473206f66207468656861732073696e6365206265656e4575726f7065616e20556e696f6e",
  "72656d696e697363656e74206f666d6f726520646966666963756c745669636520507265736964656e74",
  "636f6d706f736974696f6e206f66706173736564207468726f7567686d6f726520696d706f7274616e74",
  "666f6e742d73697a653a313170786578706c616e6174696f6e206f6674686520636f6e63657074206f66",
  "7772697474656e20696e20746865093c7370616e20636c6173733d226973206f6e65206f662074686520",
  "726573656d626c616e636520746f6f6e207468652067726f756e6473776869636820636f6e7461696e73",
  "696e636c7564696e672074686520646566696e6564206279207468657075626c69636174696f6e206f66",
  "6d65616e732074686174207468656f757473696465206f6620746865737570706f7274206f6620746865",
  "3c696e70757420636c6173733d223c7370616e20636c6173733d2274284d6174682e72616e646f6d2829",
  "6d6f73742070726f6d696e656e746465736372697074696f6e206f66436f6e7374616e74696e6f706c65",
  "77657265207075626c69736865643c64697620636c6173733d2273656170706561727320696e20746865",
  "3122206865696768743d223122206d6f737420696d706f7274616e74776869636820696e636c75646573",
  "776869636820686164206265656e6465737472756374696f6e206f6674686520706f70756c6174696f6e",
  "0a093c64697620636c6173733d22706f73736962696c697479206f66736f6d6574696d65732075736564",
  "61707065617220746f206861766573756363657373206f6620746865696e74656e64656420746f206265",
  "70726573656e7420696e207468657374796c653d22636c6561723a620d0a3c2f7363726970743e0d0a3c",
  "77617320666f756e64656420696e696e7465727669657720776974685f69642220636f6e74656e743d22",
  "6361706974616c206f66207468650d0a3c6c696e6b2072656c3d227372656c65617365206f6620746865",
  "706f696e74206f75742074686174784d4c4874747052657175657374616e642073756273657175656e74",
  "7365636f6e64206c6172676573747665727920696d706f7274616e7473706563696669636174696f6e73",
  "73757266616365206f66207468656170706c69656420746f20746865666f726569676e20706f6c696379",
  "5f736574446f6d61696e4e616d6565737461626c697368656420696e69732062656c696576656420746f",
  "496e206164646974696f6e20746f6d65616e696e67206f66207468656973206e616d6564206166746572",
  "746f2070726f7465637420746865697320726570726573656e7465644465636c61726174696f6e206f66",
  "6d6f726520656666696369656e74436c617373696669636174696f6e6f7468657220666f726d73206f66",
  "68652072657475726e656420746f3c7370616e20636c6173733d2263706572666f726d616e6365206f66",
  "2866756e6374696f6e2829207b0d696620616e64206f6e6c79206966726567696f6e73206f6620746865",
  "6c656164696e6720746f2074686572656c6174696f6e732077697468556e69746564204e6174696f6e73",
  "7374796c653d226865696768743a6f74686572207468616e207468657970652220636f6e74656e743d22",
  "4173736f63696174696f6e206f660a3c2f686561643e0a3c626f64796c6f6361746564206f6e20746865",
  "697320726566657272656420746f28696e636c7564696e6720746865636f6e63656e74726174696f6e73",
  "74686520696e646976696475616c616d6f6e6720746865206d6f73747468616e20616e79206f74686572",
  "2f3e0a3c6c696e6b2072656c3d222072657475726e2066616c73653b74686520707572706f7365206f66",
  "746865206162696c69747920746f3b636f6c6f723a236666667d0a2e0a3c7370616e20636c6173733d22",
  "746865207375626a656374206f66646566696e6974696f6e73206f663e0d0a3c6c696e6b2072656c3d22",
  "636c61696d2074686174207468656861766520646576656c6f7065643c7461626c652077696474683d22",
  "63656c6562726174696f6e206f66466f6c6c6f77696e672074686520746f2064697374696e6775697368",
  "3c7370616e20636c6173733d226274616b657320706c61636520696e756e64657220746865206e616d65",
  "6e6f7465642074686174207468653e3c215b656e6469665d2d2d3e0a7374796c653d226d617267696e2d",
  "696e7374656164206f6620746865696e74726f6475636564207468657468652070726f63657373206f66",
  "696e6372656173696e6720746865646966666572656e63657320696e657374696d617465642074686174",
  "657370656369616c6c79207468652f6469763e3c6469762069643d22776173206576656e7475616c6c79",
  "7468726f7567686f75742068697374686520646966666572656e6365736f6d657468696e672074686174",
  "7370616e3e3c2f7370616e3e3c2f7369676e69666963616e746c79203e3c2f7363726970743e0d0a0d0a",
  "656e7669726f6e6d656e74616c20746f2070726576656e742074686568617665206265656e2075736564",
  "657370656369616c6c7920666f72756e6465727374616e6420746865697320657373656e7469616c6c79",
  "7765726520746865206669727374697320746865206c61726765737468617665206265656e206d616465",
  "22207372633d22687474703a2f2f696e7465727072657465642061737365636f6e642068616c66206f66",
  "63726f6c6c696e673d226e6f2220697320636f6d706f736564206f6649492c20486f6c7920526f6d616e",
  "697320657870656374656420746f68617665207468656972206f776e646566696e656420617320746865",
  "747261646974696f6e616c6c79206861766520646966666572656e74617265206f6674656e2075736564",
  "746f20656e73757265207468617461677265656d656e742077697468636f6e7461696e696e6720746865",
  "617265206672657175656e746c79696e666f726d6174696f6e206f6e6578616d706c6520697320746865",
  "726573756c74696e6720696e20613c2f613e3c2f6c693e3c2f756c3e20636c6173733d22666f6f746572",
  "616e6420657370656369616c6c79747970653d22627574746f6e22203c2f7370616e3e3c2f7370616e3e",
  "776869636820696e636c756465643e0a3c6d657461206e616d653d22636f6e7369646572656420746865",
  "63617272696564206f7574206279486f77657665722c206974206973626563616d652070617274206f66",
  "696e2072656c6174696f6e20746f706f70756c617220696e20746865746865206361706974616c206f66",
  "776173206f6666696369616c6c79776869636820686173206265656e74686520486973746f7279206f66",
  "616c7465726e617469766520746f646966666572656e742066726f6d746f20737570706f727420746865",
  "7375676765737465642074686174696e207468652070726f6365737320203c64697620636c6173733d22",
  "74686520666f756e646174696f6e62656361757365206f6620686973636f6e6365726e65642077697468",
  "74686520756e69766572736974796f70706f73656420746f2074686574686520636f6e74657874206f66",
  "3c7370616e20636c6173733d22707465787422206e616d653d22712209093c64697620636c6173733d22",
  "74686520736369656e7469666963726570726573656e7465642062796d617468656d6174696369616e73",
  "656c656374656420627920746865746861742068617665206265656e3e3c64697620636c6173733d2263",
  "6469762069643d22686561646572696e20706172746963756c61722c636f6e76657274656420696e746f",
  "293b0a3c2f7363726970743e0a3c7068696c6f736f70686963616c20737270736b6f6872766174736b69",
  "7469e1babf6e67205669e1bb8774d0a0d183d181d181d0bad0b8d0b9d180d183d181d181d0bad0b8d0b9",
  "696e766573746967616369c3b36e7061727469636970616369c3b36ed0bad0bed182d0bed180d18bd0b5",
  "d0bed0b1d0bbd0b0d181d182d0b8d0bad0bed182d0bed180d18bd0b9d187d0b5d0bbd0bed0b2d0b5d0ba",
  "d181d0b8d181d182d0b5d0bcd18bd09dd0bed0b2d0bed181d182d0b8d0bad0bed182d0bed180d18bd185",
  "d0bed0b1d0bbd0b0d181d182d18cd0b2d180d0b5d0bcd0b5d0bdd0b8d0bad0bed182d0bed180d0b0d18f",
  "d181d0b5d0b3d0bed0b4d0bdd18fd181d0bad0b0d187d0b0d182d18cd0bdd0bed0b2d0bed181d182d0b8",
  "d0a3d0bad180d0b0d0b8d0bdd18bd0b2d0bed0bfd180d0bed181d18bd0bad0bed182d0bed180d0bed0b9",
  "d181d0b4d0b5d0bbd0b0d182d18cd0bfd0bed0bcd0bed189d18cd18ed181d180d0b5d0b4d181d182d0b2",
  "d0bed0b1d180d0b0d0b7d0bed0bcd181d182d0bed180d0bed0bdd18bd183d187d0b0d181d182d0b8d0b5",
  "d182d0b5d187d0b5d0bdd0b8d0b5d093d0bbd0b0d0b2d0bdd0b0d18fd0b8d181d182d0bed180d0b8d0b8",
  "d181d0b8d181d182d0b5d0bcd0b0d180d0b5d188d0b5d0bdd0b8d18fd0a1d0bad0b0d187d0b0d182d18c",
  "d0bfd0bed18dd182d0bed0bcd183d181d0bbd0b5d0b4d183d0b5d182d181d0bad0b0d0b7d0b0d182d18c",
  "d182d0bed0b2d0b0d180d0bed0b2d0bad0bed0bdd0b5d187d0bdd0bed180d0b5d188d0b5d0bdd0b8d0b5",
  "d0bad0bed182d0bed180d0bed0b5d0bed180d0b3d0b0d0bdd0bed0b2d0bad0bed182d0bed180d0bed0bc",
  "d0a0d0b5d0bad0bbd0b0d0bcd0b0d8a7d984d985d986d8aad8afd989d985d986d8aad8afd98ad8a7d8aa",
  "d8a7d984d985d988d8b6d988d8b9d8a7d984d8a8d8b1d8a7d985d8acd8a7d984d985d988d8a7d982d8b9",
  "d8a7d984d8b1d8b3d8a7d8a6d984d985d8b4d8a7d8b1d983d8a7d8aad8a7d984d8a3d8b9d8b6d8a7d8a1",
  "d8a7d984d8b1d98ad8a7d8b6d8a9d8a7d984d8aad8b5d985d98ad985d8a7d984d8a7d8b9d8b6d8a7d8a1",
  "d8a7d984d986d8aad8a7d8a6d8acd8a7d984d8a3d984d8b9d8a7d8a8d8a7d984d8aad8b3d8acd98ad984",
  "d8a7d984d8a3d982d8b3d8a7d985d8a7d984d8b6d8bad8b7d8a7d8aad8a7d984d981d98ad8afd98ad988",
  "d8a7d984d8aad8b1d8add98ad8a8d8a7d984d8acd8afd98ad8afd8a9d8a7d984d8aad8b9d984d98ad985",
  "d8a7d984d8a3d8aed8a8d8a7d8b1d8a7d984d8a7d981d984d8a7d985d8a7d984d8a3d981d984d8a7d985",
  "d8a7d984d8aad8a7d8b1d98ad8aed8a7d984d8aad982d986d98ad8a9d8a7d984d8a7d984d8b9d8a7d8a8",
  "d8a7d984d8aed988d8a7d8b7d8b1d8a7d984d985d8acd8aad985d8b9d8a7d984d8afd98ad983d988d8b1",
  "d8a7d984d8b3d98ad8a7d8add8a9d8b9d8a8d8afd8a7d984d984d987d8a7d984d8aad8b1d8a8d98ad8a9",
  "d8a7d984d8b1d988d8a7d8a8d8b7d8a7d984d8a3d8afd8a8d98ad8a9d8a7d984d8a7d8aed8a8d8a7d8b1",
  "d8a7d984d985d8aad8add8afd8a9d8a7d984d8a7d8bad8a7d986d98a"]

def fifteen : List String := [
  "637572736f723a706f696e7465723b3c2f7469746c653e0a3c6d657461202220687265663d22687474703a2f2f",
  "223e3c7370616e20636c6173733d226d656d62657273206f66207468652077696e646f772e6c6f636174696f6e",
  "766572746963616c2d616c69676e3a2f613e207c203c6120687265663d223c21646f63747970652068746d6c3e",
  "6d656469613d2273637265656e22203c6f7074696f6e2076616c75653d2266617669636f6e2e69636f22202f3e",
  "0a09093c64697620636c6173733d2263686172616374657269737469637322206d6574686f643d226765742220",
  "2f626f64793e0a3c2f68746d6c3e0a73686f72746375742069636f6e2220646f63756d656e742e777269746528",
  "70616464696e672d626f74746f6d3a726570726573656e746174697665737375626d6974222076616c75653d22",
  "616c69676e3d2263656e74657222207468726f7567686f75742074686520736369656e63652066696374696f6e",
  "0a20203c64697620636c6173733d227375626d69742220636c6173733d226f6e65206f6620746865206d6f7374",
  "2076616c69676e3d22746f70223e3c7761732065737461626c6973686564293b0d0a3c2f7363726970743e0d0a",
  "72657475726e2066616c73653b223e292e7374796c652e646973706c617962656361757365206f662074686520",
  "646f63756d656e742e636f6f6b69653c666f726d20616374696f6e3d222f7d626f64797b6d617267696e3a303b",
  "456e6379636c6f7065646961206f6676657273696f6e206f6620746865202e637265617465456c656d656e7428",
  "6e616d652220636f6e74656e743d223c2f6469763e0a3c2f6469763e0a0a61646d696e69737472617469766520",
  "3c2f626f64793e0a3c2f68746d6c3e686973746f7279206f662074686520223e3c696e70757420747970653d22",
  "706f7274696f6e206f66207468652061732070617274206f662074686520266e6273703b3c6120687265663d22",
  "6f7468657220636f756e7472696573223e0a3c64697620636c6173733d223c2f7370616e3e3c2f7370616e3e3c",
  "496e206f7468657220776f7264732c646973706c61793a20626c6f636b3b636f6e74726f6c206f662074686520",
  "696e74726f64756374696f6e206f662f3e0a3c6d657461206e616d653d2261732077656c6c2061732074686520",
  "696e20726563656e742079656172730d0a093c64697620636c6173733d223c2f6469763e0a093c2f6469763e0a",
  "696e7370697265642062792074686574686520656e64206f662074686520636f6d70617469626c652077697468",
  "626563616d65206b6e6f776e206173207374796c653d226d617267696e3a2e6a73223e3c2f7363726970743e3c",
  "20496e7465726e6174696f6e616c2074686572652068617665206265656e4765726d616e206c616e6775616765",
  "207374796c653d22636f6c6f723a23436f6d6d756e697374205061727479636f6e73697374656e742077697468",
  "626f726465723d2230222063656c6c206d617267696e6865696768743d22746865206d616a6f72697479206f66",
  "2220616c69676e3d2263656e74657272656c6174656420746f20746865206d616e7920646966666572656e7420",
  "4f7274686f646f782043687572636873696d696c617220746f20746865202f3e0a3c6c696e6b2072656c3d2273",
  "776173206f6e65206f662074686520756e74696c206869732064656174687d2928293b0a3c2f7363726970743e",
  "6f74686572206c616e677561676573636f6d706172656420746f20746865706f7274696f6e73206f6620746865",
  "746865204e65746865726c616e6473746865206d6f737420636f6d6d6f6e6261636b67726f756e643a75726c28",
  "6172677565642074686174207468657363726f6c6c696e673d226e6f2220696e636c7564656420696e20746865",
  "4e6f72746820416d65726963616e20746865206e616d65206f6620746865696e746572707265746174696f6e73",
  "74686520747261646974696f6e616c646576656c6f706d656e74206f66206672657175656e746c792075736564",
  "6120636f6c6c656374696f6e206f66766572792073696d696c617220746f737572726f756e64696e6720746865",
  "6578616d706c65206f662074686973616c69676e3d2263656e746572223e776f756c642068617665206265656e",
  "696d6167655f63617074696f6e203d617474616368656420746f2074686573756767657374696e672074686174",
  "696e2074686520666f726d206f6620696e766f6c76656420696e20746865697320646572697665642066726f6d",
  "6e616d656420616674657220746865496e74726f64756374696f6e20746f7265737472696374696f6e73206f6e",
  "207374796c653d2277696474683a2063616e206265207573656420746f20746865206372656174696f6e206f66",
  "6d6f737420696d706f7274616e7420696e666f726d6174696f6e20616e64726573756c74656420696e20746865",
  "636f6c6c61707365206f662074686554686973206d65616e732074686174656c656d656e7473206f6620746865",
  "776173207265706c61636564206279616e616c79736973206f6620746865696e737069726174696f6e20666f72",
  "7265676172646564206173207468656d6f7374207375636365737366756c6b6e6f776e206173202671756f743b",
  "6120636f6d70726568656e73697665486973746f7279206f6620746865207765726520636f6e73696465726564",
  "72657475726e656420746f2074686561726520726566657272656420746f556e736f757263656420696d616765",
  "3e0a093c64697620636c6173733d22636f6e7369737473206f662074686573746f7050726f7061676174696f6e",
  "696e74657265737420696e20746865617661696c6162696c697479206f666170706561727320746f2068617665",
  "656c656374726f6d61676e65746963656e61626c6553657276696365732866756e6374696f6e206f6620746865",
  "497420697320696d706f7274616e743c2f7363726970743e3c2f6469763e66756e6374696f6e28297b76617220",
  "72656c617469766520746f207468656173206120726573756c74206f662074686520706f736974696f6e206f66",
  "466f72206578616d706c652c20696e206d6574686f643d22706f7374222077617320666f6c6c6f776564206279",
  "26616d703b6d646173683b20746865746865206170706c69636174696f6e6a73223e3c2f7363726970743e0d0a",
  "756c3e3c2f6469763e3c2f6469763e61667465722074686520646561746877697468207265737065637420746f",
  "7374796c653d2270616464696e673a697320706172746963756c61726c79646973706c61793a696e6c696e653b",
  "20747970653d227375626d697422206973206469766964656420696e746fe4b8ade696872028e7ae80e4bd9329",
  "726573706f6e736162696c6964616461646d696e69737472616369c3b36e696e7465726e6163696f6e616c6573",
  "636f72726573706f6e6469656e7465e0a489e0a4aae0a4afe0a58be0a497e0a4aae0a582e0a4b0e0a58de0a4b5",
  "e0a4b9e0a4aee0a4bee0a4b0e0a587e0a4b2e0a58be0a497e0a58be0a482e0a49ae0a581e0a4a8e0a4bee0a4b5",
  "e0a4b2e0a587e0a495e0a4bfe0a4a8e0a4b8e0a4b0e0a495e0a4bee0a4b0e0a4aae0a581e0a4b2e0a4bfe0a4b8",
  "e0a496e0a58be0a49ce0a587e0a482e0a49ae0a4bee0a4b9e0a4bfe0a48fe0a4ade0a587e0a49ce0a587e0a482",
  "e0a4b6e0a4bee0a4aee0a4bfe0a4b2e0a4b9e0a4aee0a4bee0a4b0e0a580e0a49ce0a4bee0a497e0a4b0e0a4a3",
  "e0a4ace0a4a8e0a4bee0a4a8e0a587e0a495e0a581e0a4aee0a4bee0a4b0e0a4ace0a58de0a4b2e0a589e0a497",
  "e0a4aee0a4bee0a4b2e0a4bfe0a495e0a4aee0a4b9e0a4bfe0a4b2e0a4bee0a4aae0a583e0a4b7e0a58de0a4a0",
  "e0a4ace0a4a2e0a4bce0a4a4e0a587e0a4ade0a4bee0a49ce0a4aae0a4bee0a495e0a58de0a4b2e0a4bfe0a495",
  "e0a49fe0a58de0a4b0e0a587e0a4a8e0a496e0a4bfe0a4b2e0a4bee0a4abe0a4a6e0a58ce0a4b0e0a4bee0a4a8",
  "e0a4aee0a4bee0a4aee0a4b2e0a587e0a4aee0a4a4e0a4a6e0a4bee0a4a8e0a4ace0a4bee0a49ce0a4bee0a4b0",
  "e0a4b5e0a4bfe0a495e0a4bee0a4b8e0a495e0a58de0a4afe0a58be0a482e0a49ae0a4bee0a4b9e0a4a4e0a587",
  "e0a4aae0a4b9e0a581e0a481e0a49ae0a4ace0a4a4e0a4bee0a4afe0a4bee0a4b8e0a482e0a4b5e0a4bee0a4a6",
  "e0a4a6e0a587e0a496e0a4a8e0a587e0a4aae0a4bfe0a49be0a4b2e0a587e0a4b5e0a4bfe0a4b6e0a587e0a4b7",
  "e0a4b0e0a4bee0a49ce0a58de0a4afe0a489e0a4a4e0a58de0a4a4e0a4b0e0a4aee0a581e0a482e0a4ace0a488",
  "e0a4a6e0a58be0a4a8e0a58be0a482e0a489e0a4aae0a495e0a4b0e0a4a3e0a4aae0a4a2e0a4bce0a587e0a482",
  "e0a4b8e0a58de0a4a5e0a4bfe0a4a4e0a4abe0a4bfe0a4b2e0a58de0a4aee0a4aee0a581e0a496e0a58de0a4af",
  "e0a485e0a49ae0a58de0a49be0a4bee0a49be0a582e0a49fe0a4a4e0a580e0a4b8e0a482e0a497e0a580e0a4a4",
  "e0a49ce0a4bee0a48fe0a497e0a4bee0a4b5e0a4bfe0a4ade0a4bee0a497e0a498e0a4a3e0a58de0a49fe0a587",
  "e0a4a6e0a582e0a4b8e0a4b0e0a587e0a4a6e0a4bfe0a4a8e0a58be0a482e0a4b9e0a4a4e0a58de0a4afe0a4be",
  "e0a4b8e0a587e0a495e0a58de0a4b8e0a497e0a4bee0a482e0a4a7e0a580e0a4b5e0a4bfe0a4b6e0a58de0a4b5",
  "e0a4b0e0a4bee0a4a4e0a587e0a482e0a4a6e0a588e0a49fe0a58de0a4b8e0a4a8e0a495e0a58de0a4b6e0a4be",
  "e0a4b8e0a4bee0a4aee0a4a8e0a587e0a485e0a4a6e0a4bee0a4b2e0a4a4e0a4ace0a4bfe0a49ce0a4b2e0a580",
  "e0a4aae0a581e0a4b0e0a582e0a4b7e0a4b9e0a4bfe0a482e0a4a6e0a580e0a4aee0a4bfe0a4a4e0a58de0a4b0",
  "e0a495e0a4b5e0a4bfe0a4a4e0a4bee0a4b0e0a581e0a4aae0a4afe0a587e0a4b8e0a58de0a4a5e0a4bee0a4a8",
  "e0a495e0a4b0e0a58be0a4a1e0a4bce0a4aee0a581e0a495e0a58de0a4a4e0a4afe0a58be0a49ce0a4a8e0a4be",
  "e0a495e0a583e0a4aae0a4afe0a4bee0a4aae0a58be0a4b8e0a58de0a49fe0a498e0a4b0e0a587e0a4b2e0a582",
  "e0a495e0a4bee0a4b0e0a58de0a4afe0a4b5e0a4bfe0a49ae0a4bee0a4b0e0a4b8e0a582e0a49ae0a4a8e0a4be",
  "e0a4aee0a582e0a4b2e0a58de0a4afe0a4a6e0a587e0a496e0a587e0a482e0a4b9e0a4aee0a587e0a4b6e0a4be",
  "e0a4b8e0a58de0a495e0a582e0a4b2e0a4aee0a588e0a482e0a4a8e0a587e0a4a4e0a588e0a4afe0a4bee0a4b0",
  "e0a49ce0a4bfe0a4b8e0a495e0a587"]

def sixteen : List String := [
  "7273732b786d6c22207469746c653d222d747970652220636f6e74656e743d22",
  "7469746c652220636f6e74656e743d226174207468652073616d652074696d65",
  "2e6a73223e3c2f7363726970743e0a3c22206d6574686f643d22706f73742220",
  "3c2f7370616e3e3c2f613e3c2f6c693e766572746963616c2d616c69676e3a74",
  "2f6a71756572792e6d696e2e6a73223e2e636c69636b2866756e6374696f6e28",
  "207374796c653d2270616464696e672d7d2928293b0a3c2f7363726970743e0a",
  "3c2f7370616e3e3c6120687265663d223c6120687265663d22687474703a2f2f",
  "293b2072657475726e2066616c73653b746578742d6465636f726174696f6e3a",
  "207363726f6c6c696e673d226e6f2220626f726465722d636f6c6c617073653a",
  "6173736f63696174656420776974682042616861736120496e646f6e65736961",
  "456e676c697368206c616e67756167653c7465787420786d6c3a73706163653d",
  "2e6769662220626f726465723d2230223c2f626f64793e0a3c2f68746d6c3e0a",
  "6f766572666c6f773a68696464656e3b696d67207372633d22687474703a2f2f",
  "6164644576656e744c697374656e6572726573706f6e7369626c6520666f7220",
  "732e6a73223e3c2f7363726970743e0a2f66617669636f6e2e69636f22202f3e",
  "6f7065726174696e672073797374656d22207374796c653d2277696474683a31",
  "7461726765743d225f626c616e6b223e537461746520556e6976657273697479",
  "746578742d616c69676e3a6c6566743b0a646f63756d656e742e777269746528",
  "2c20696e636c7564696e67207468652061726f756e642074686520776f726c64",
  "293b0d0a3c2f7363726970743e0d0a3c22207374796c653d226865696768743a",
  "3b6f766572666c6f773a68696464656e6d6f726520696e666f726d6174696f6e",
  "616e20696e7465726e6174696f6e616c61206d656d626572206f662074686520",
  "6f6e65206f662074686520666972737463616e20626520666f756e6420696e20",
  "3c2f6469763e0a09093c2f6469763e0a646973706c61793a206e6f6e653b223e",
  "22202f3e0a3c6c696e6b2072656c3d220a20202866756e6374696f6e2829207b",
  "74686520313574682063656e747572792e70726576656e7444656661756c7428",
  "6c61726765206e756d626572206f662042797a616e74696e6520456d70697265",
  "2e6a70677c7468756d627c6c6566747c76617374206d616a6f72697479206f66",
  "6d616a6f72697479206f66207468652020616c69676e3d2263656e746572223e",
  "556e6976657273697479205072657373646f6d696e6174656420627920746865",
  "5365636f6e6420576f726c6420576172646973747269627574696f6e206f6620",
  "7374796c653d22706f736974696f6e3a7468652072657374206f662074686520",
  "636861726163746572697a65642062792072656c3d226e6f666f6c6c6f77223e",
  "646572697665732066726f6d20746865726174686572207468616e2074686520",
  "6120636f6d62696e6174696f6e206f667374796c653d2277696474683a313030",
  "456e676c6973682d737065616b696e67636f6d707574657220736369656e6365",
  "626f726465723d22302220616c743d22746865206578697374656e6365206f66",
  "44656d6f63726174696320506172747922207374796c653d226d617267696e2d",
  "466f72207468697320726561736f6e2c2e6a73223e3c2f7363726970743e0a09",
  "7342795461674e616d652873295b305d6a73223e3c2f7363726970743e0d0a3c",
  "2e6a73223e3c2f7363726970743e0d0a6c696e6b2072656c3d2269636f6e2220",
  "2720616c743d272720636c6173733d27666f726d6174696f6e206f6620746865",
  "76657273696f6e73206f6620746865203c2f613e3c2f6469763e3c2f6469763e",
  "2f706167653e0a20203c706167653e0a3c64697620636c6173733d22636f6e74",
  "626563616d652074686520666972737462616861736120496e646f6e65736961",
  "656e676c697368202873696d706c6529ce95cebbcebbceb7cebdceb9cebaceac",
  "d185d180d0b2d0b0d182d181d0bad0b8d0bad0bed0bcd0bfd0b0d0bdd0b8d0b8",
  "d18fd0b2d0bbd18fd0b5d182d181d18fd094d0bed0b1d0b0d0b2d0b8d182d18c",
  "d187d0b5d0bbd0bed0b2d0b5d0bad0b0d180d0b0d0b7d0b2d0b8d182d0b8d18f",
  "d098d0bdd182d0b5d180d0bdd0b5d182d09ed182d0b2d0b5d182d0b8d182d18c",
  "d0bdd0b0d0bfd180d0b8d0bcd0b5d180d0b8d0bdd182d0b5d180d0bdd0b5d182",
  "d0bad0bed182d0bed180d0bed0b3d0bed181d182d180d0b0d0bdd0b8d186d18b",
  "d0bad0b0d187d0b5d181d182d0b2d0b5d183d181d0bbd0bed0b2d0b8d18fd185",
  "d0bfd180d0bed0b1d0bbd0b5d0bcd18bd0bfd0bed0bbd183d187d0b8d182d18c",
  "d18fd0b2d0bbd18fd18ed182d181d18fd0bdd0b0d0b8d0b1d0bed0bbd0b5d0b5",
  "d0bad0bed0bcd0bfd0b0d0bdd0b8d18fd0b2d0bdd0b8d0bcd0b0d0bdd0b8d0b5",
  "d181d180d0b5d0b4d181d182d0b2d0b0d8a7d984d985d988d8a7d8b6d98ad8b9",
  "d8a7d984d8b1d8a6d98ad8b3d98ad8a9d8a7d984d8a7d986d8aad982d8a7d984",
  "d985d8b4d8a7d8b1d983d8a7d8aad983d8a7d984d8b3d98ad8a7d8b1d8a7d8aa",
  "d8a7d984d985d983d8aad988d8a8d8a9d8a7d984d8b3d8b9d988d8afd98ad8a9",
  "d8a7d8add8b5d8a7d8a6d98ad8a7d8aad8a7d984d8b9d8a7d984d985d98ad8a9",
  "d8a7d984d8b5d988d8aad98ad8a7d8aad8a7d984d8a7d986d8aad8b1d986d8aa",
  "d8a7d984d8aad8b5d8a7d985d98ad985d8a7d984d8a5d8b3d984d8a7d985d98a",
  "d8a7d984d985d8b4d8a7d8b1d983d8a9d8a7d984d985d8b1d8a6d98ad8a7d8aa"]

def seventeen : List String := [
  "726f626f74732220636f6e74656e743d223c6469762069643d22666f6f746572223e",
  "74686520556e69746564205374617465733c696d67207372633d22687474703a2f2f",
  "2e6a70677c72696768747c7468756d627c2e6a73223e3c2f7363726970743e0d0a3c",
  "6c6f636174696f6e2e70726f746f636f6c6672616d65626f726465723d2230222073",
  "22202f3e0a3c6d657461206e616d653d223c2f613e3c2f6469763e3c2f6469763e3c",
  "666f6e742d7765696768743a626f6c643b2671756f743b20616e64202671756f743b",
  "646570656e64696e67206f6e20746865206d617267696e3a303b70616464696e673a",
  "222072656c3d226e6f666f6c6c6f772220507265736964656e74206f662074686520",
  "7477656e74696574682063656e7475727965766973696f6e3e0a20203c2f70616765",
  "496e7465726e6574204578706c6f726572612e6173796e63203d20747275653b0d0a",
  "696e666f726d6174696f6e2061626f75743c6469762069643d22686561646572223e",
  "2220616374696f6e3d22687474703a2f2f3c6120687265663d2268747470733a2f2f",
  "3c6469762069643d22636f6e74656e74223c2f6469763e0d0a3c2f6469763e0d0a3c",
  "646572697665642066726f6d20746865203c696d67207372633d27687474703a2f2f",
  "6163636f7264696e6720746f20746865200a3c2f626f64793e0a3c2f68746d6c3e0a",
  "7374796c653d22666f6e742d73697a653a736372697074206c616e67756167653d22",
  "417269616c2c2048656c7665746963612c3c2f613e3c7370616e20636c6173733d22",
  "3c2f7363726970743e3c73637269707420706f6c69746963616c2070617274696573",
  "74643e3c2f74723e3c2f7461626c653e3c687265663d22687474703a2f2f7777772e",
  "696e746572707265746174696f6e206f6672656c3d227374796c6573686565742220",
  "646f63756d656e742e777269746528273c636861727365743d227574662d38223e0a",
  "626567696e6e696e67206f66207468652072657665616c6564207468617420746865",
  "74656c65766973696f6e20736572696573222072656c3d226e6f666f6c6c6f77223e",
  "207461726765743d225f626c616e6b223e636c61696d696e67207468617420746865",
  "687474702533412532462532467777772e6d616e69666573746174696f6e73206f66",
  "5072696d65204d696e6973746572206f66696e666c75656e63656420627920746865",
  "636c6173733d22636c656172666978223e2f6469763e0d0a3c2f6469763e0d0a0d0a",
  "74687265652d64696d656e73696f6e616c436875726368206f6620456e676c616e64",
  "6f66204e6f727468204361726f6c696e61737175617265206b696c6f6d6574726573",
  "2e6164644576656e744c697374656e657264697374696e63742066726f6d20746865",
  "636f6d6d6f6e6c79206b6e6f776e20617350686f6e6574696320416c706861626574",
  "6465636c61726564207468617420746865636f6e74726f6c6c656420627920746865",
  "42656e6a616d696e204672616e6b6c696e726f6c652d706c6179696e672067616d65",
  "74686520556e6976657273697479206f66696e205765737465726e204575726f7065",
  "706572736f6e616c20636f6d707574657250726f6a65637420477574656e62657267",
  "7265676172646c657373206f6620746865686173206265656e2070726f706f736564",
  "746f6765746865722077697468207468653e3c2f6c693e3c6c6920636c6173733d22",
  "696e20736f6d6520636f756e74726965736d696e2e6a73223e3c2f7363726970743e",
  "6f662074686520706f70756c6174696f6e6f6666696369616c206c616e6775616765",
  "3c696d67207372633d22696d616765732f6964656e74696669656420627920746865",
  "6e61747572616c207265736f7572636573636c617373696669636174696f6e206f66",
  "63616e20626520636f6e736964657265647175616e74756d206d656368616e696373",
  "4e657665727468656c6573732c207468656d696c6c696f6e2079656172732061676f",
  "3c2f626f64793e0d0a3c2f68746d6c3e0dce95cebbcebbceb7cebdceb9cebaceac0a",
  "74616b6520616476616e74616765206f66616e642c206163636f7264696e6720746f",
  "6174747269627574656420746f207468654d6963726f736f66742057696e646f7773",
  "7468652066697273742063656e74757279756e6465722074686520636f6e74726f6c",
  "64697620636c6173733d2268656164657273686f72746c7920616674657220746865",
  "6e6f7461626c6520657863657074696f6e74656e73206f662074686f7573616e6473",
  "7365766572616c20646966666572656e7461726f756e642074686520776f726c642e",
  "7265616368696e67206d696c697461727969736f6c617465642066726f6d20746865",
  "6f70706f736974696f6e20746f20746865746865204f6c642054657374616d656e74",
  "4166726963616e20416d65726963616e73696e73657274656420696e746f20746865",
  "73657061726174652066726f6d207468656d6574726f706f6c6974616e2061726561",
  "6d616b657320697420706f737369626c6561636b6e6f776c65646765642074686174",
  "6172677561626c7920746865206d6f7374747970653d22746578742f637373223e0a",
  "74686520496e7465726e6174696f6e616c4163636f7264696e6720746f2074686520",
  "70653d22746578742f63737322202f3e0a636f696e63696465207769746820746865",
  "74776f2d746869726473206f6620746865447572696e6720746869732074696d652c",
  "647572696e672074686520706572696f64616e6e6f756e6365642074686174206865",
  "74686520696e7465726e6174696f6e616c616e64206d6f726520726563656e746c79",
  "62656c6965766564207468617420746865636f6e7363696f75736e65737320616e64",
  "666f726d65726c79206b6e6f776e206173737572726f756e64656420627920746865",
  "666972737420617070656172656420696e6f63636173696f6e616c6c792075736564"]

def eighteen : List String := [
  "706f736974696f6e3a6162736f6c7574653b22207461726765743d225f626c616e6b2220",
  "706f736974696f6e3a72656c61746976653b746578742d616c69676e3a63656e7465723b",
  "6a61782f6c6962732f6a71756572792f312e6261636b67726f756e642d636f6c6f723a23",
  "747970653d226170706c69636174696f6e2f616e67756167652220636f6e74656e743d22",
  "3c6d65746120687474702d65717569763d225072697661637920506f6c6963793c2f613e",
  "652822253343736372697074207372633d2722207461726765743d225f626c616e6b223e",
  "4f6e20746865206f746865722068616e642c2e6a70677c7468756d627c72696768747c32",
  "3c2f6469763e3c64697620636c6173733d223c646976207374796c653d22666c6f61743a",
  "6e696e657465656e74682063656e747572793c2f626f64793e0d0a3c2f68746d6c3e0d0a",
  "3c696d67207372633d22687474703a2f2f733b746578742d616c69676e3a63656e746572",
  "666f6e742d7765696768743a20626f6c643b204163636f7264696e6720746f2074686520",
  "646966666572656e6365206265747765656e22206672616d65626f726465723d22302220",
  "22207374796c653d22706f736974696f6e3a6c696e6b20687265663d22687474703a2f2f",
  "68746d6c342f6c6f6f73652e647464223e0a647572696e67207468697320706572696f64",
  "3c2f74643e3c2f74723e3c2f7461626c653e636c6f73656c792072656c6174656420746f",
  "666f72207468652066697273742074696d653b666f6e742d7765696768743a626f6c643b",
  "696e70757420747970653d227465787422203c7370616e207374796c653d22666f6e742d",
  "6f6e726561647973746174656368616e6765093c64697620636c6173733d22636c656172",
  "646f63756d656e742e6c6f636174696f6e2e20466f72206578616d706c652c2074686520",
  "6120776964652076617269657479206f66203c21444f43545950452068746d6c3e0d0a3c",
  "266e6273703b266e6273703b266e6273703b223e3c6120687265663d22687474703a2f2f",
  "7374796c653d22666c6f61743a6c6566743b636f6e6365726e6564207769746820746865",
  "3d687474702533412532462532467777772e696e20706f70756c61722063756c74757265",
  "747970653d22746578742f63737322202f3e697420697320706f737369626c6520746f20",
  "4861727661726420556e697665727369747974796c6573686565742220687265663d222f",
  "746865206d61696e206368617261637465724f78666f726420556e697665727369747920",
  "206e616d653d226b6579776f7264732220637374796c653d22746578742d616c69676e3a",
  "74686520556e69746564204b696e67646f6d6665646572616c20676f7665726e6d656e74",
  "3c646976207374796c653d226d617267696e20646570656e64696e67206f6e2074686520",
  "6465736372697074696f6e206f66207468653c64697620636c6173733d22686561646572",
  "2e6d696e2e6a73223e3c2f7363726970743e6465737472756374696f6e206f6620746865",
  "736c696768746c7920646966666572656e74696e206163636f7264616e63652077697468",
  "74656c65636f6d6d756e69636174696f6e73696e64696361746573207468617420746865",
  "73686f72746c792074686572656166746572657370656369616c6c7920696e2074686520",
  "4575726f7065616e20636f756e7472696573486f77657665722c20746865726520617265",
  "7372633d22687474703a2f2f737461746963737567676573746564207468617420746865",
  "22207372633d22687474703a2f2f7777772e61206c61726765206e756d626572206f6620",
  "54656c65636f6d6d756e69636174696f6e73222072656c3d226e6f666f6c6c6f77222074",
  "486f6c7920526f6d616e20456d7065726f72616c6d6f7374206578636c75736976656c79",
  "2220626f726465723d22302220616c743d22536563726574617279206f66205374617465",
  "63756c6d696e6174696e6720696e2074686543494120576f726c642046616374626f6f6b",
  "746865206d6f737420696d706f7274616e74616e6e6976657273617279206f6620746865",
  "7374796c653d226261636b67726f756e642d3c6c693e3c656d3e3c6120687265663d222f",
  "7468652041746c616e746963204f6365616e7374726963746c7920737065616b696e672c",
  "73686f72746c79206265666f726520746865646966666572656e74207479706573206f66",
  "746865204f74746f6d616e20456d706972653e3c696d67207372633d22687474703a2f2f",
  "416e20496e74726f64756374696f6e20746f636f6e73657175656e6365206f6620746865",
  "6465706172747572652066726f6d20746865436f6e666564657261746520537461746573",
  "696e646967656e6f75732070656f706c657350726f63656564696e6773206f6620746865",
  "696e666f726d6174696f6e206f6e207468657468656f726965732068617665206265656e",
  "696e766f6c76656d656e7420696e207468656469766964656420696e746f207468726565",
  "61646a6163656e7420636f756e7472696573697320726573706f6e7369626c6520666f72",
  "646973736f6c7574696f6e206f6620746865636f6c6c61626f726174696f6e2077697468",
  "776964656c7920726567617264656420617368697320636f6e74656d706f726172696573",
  "666f756e64696e67206d656d626572206f66446f6d696e6963616e2052657075626c6963",
  "67656e6572616c6c7920616363657074656474686520706f73736962696c697479206f66",
  "61726520616c736f20617661696c61626c65756e64657220636f6e737472756374696f6e",
  "726573746f726174696f6e206f66207468657468652067656e6572616c207075626c6963",
  "697320616c6d6f737420656e746972656c79706173736573207468726f75676820746865",
  "686173206265656e20737567676573746564636f6d707574657220616e6420766964656f",
  "4765726d616e6963206c616e677561676573206163636f7264696e6720746f2074686520",
  "646966666572656e742066726f6d2074686573686f72746c792061667465727761726473",
  "687265663d2268747470733a2f2f7777772e726563656e7420646576656c6f706d656e74",
  "426f617264206f66204469726563746f72733c64697620636c6173733d22736561726368",
  "7c203c6120687265663d22687474703a2f2f496e20706172746963756c61722c20746865",
  "4d756c7469706c6520666f6f746e6f7465736f72206f74686572207375627374616e6365",
  "74686f7573616e6473206f662079656172737472616e736c6174696f6e206f6620746865",
  "3c2f6469763e0d0a3c2f6469763e0d0a0d0a3c6120687265663d22696e6465782e706870",
  "7761732065737461626c697368656420696e6d696e2e6a73223e3c2f7363726970743e0a",
  "706172746963697061746520696e2074686561207374726f6e6720696e666c75656e6365",
  "7374796c653d226d617267696e2d746f703a726570726573656e74656420627920746865",
  "6772616475617465642066726f6d20746865547261646974696f6e616c6c792c20746865",
  "456c656d656e74282273637269707422293b486f77657665722c2073696e636520746865",
  "2f6469763e0a3c2f6469763e0a3c646976206c6566743b206d617267696e2d6c6566743a",
  "70726f74656374696f6e20616761696e7374303b20766572746963616c2d616c69676e3a",
  "556e666f7274756e6174656c792c20746865747970653d22696d6167652f782d69636f6e",
  "2f6469763e0a3c64697620636c6173733d2220636c6173733d22636c656172666978223e",
  "3c64697620636c6173733d22666f6f74657209093c2f6469763e0a09093c2f6469763e0a",
  "746865206d6f74696f6e2070696374757265d091d18ad0bbd0b3d0b0d180d181d0bad0b8",
  "d0b1d18ad0bbd0b3d0b0d180d181d0bad0b8d0a4d0b5d0b4d0b5d180d0b0d186d0b8d0b8",
  "d0bdd0b5d181d0bad0bed0bbd18cd0bad0bed181d0bed0bed0b1d189d0b5d0bdd0b8d0b5",
  "d181d0bed0bed0b1d189d0b5d0bdd0b8d18fd0bfd180d0bed0b3d180d0b0d0bcd0bcd18b",
  "d09ed182d0bfd180d0b0d0b2d0b8d182d18cd0b1d0b5d181d0bfd0bbd0b0d182d0bdd0be",
  "d0bcd0b0d182d0b5d180d0b8d0b0d0bbd18bd0bfd0bed0b7d0b2d0bed0bbd18fd0b5d182",
  "d0bfd0bed181d0bbd0b5d0b4d0bdd0b8d0b5d180d0b0d0b7d0bbd0b8d187d0bdd18bd185",
  "d0bfd180d0bed0b4d183d0bad186d0b8d0b8d0bfd180d0bed0b3d180d0b0d0bcd0bcd0b0",
  "d0bfd0bed0bbd0bdd0bed181d182d18cd18ed0bdd0b0d185d0bed0b4d0b8d182d181d18f",
  "d0b8d0b7d0b1d180d0b0d0bdd0bdd0bed0b5d0bdd0b0d181d0b5d0bbd0b5d0bdd0b8d18f",
  "d0b8d0b7d0bcd0b5d0bdd0b5d0bdd0b8d18fd0bad0b0d182d0b5d0b3d0bed180d0b8d0b8",
  "d090d0bbd0b5d0bad181d0b0d0bdd0b4d180e0a4a6e0a58de0a4b5e0a4bee0a4b0e0a4be",
  "e0a4aee0a588e0a4a8e0a581e0a485e0a4b2e0a4aae0a58de0a4b0e0a4a6e0a4bee0a4a8",
  "e0a4ade0a4bee0a4b0e0a4a4e0a580e0a4afe0a485e0a4a8e0a581e0a4a6e0a587e0a4b6",
  "e0a4b9e0a4bfe0a4a8e0a58de0a4a6e0a580e0a487e0a482e0a4a1e0a4bfe0a4afe0a4be",
  "e0a4a6e0a4bfe0a4b2e0a58de0a4b2e0a580e0a485e0a4a7e0a4bfe0a495e0a4bee0a4b0",
  "e0a4b5e0a580e0a4a1e0a4bfe0a4afe0a58be0a49ae0a4bfe0a49fe0a58de0a4a0e0a587",
  "e0a4b8e0a4aee0a4bee0a49ae0a4bee0a4b0e0a49ce0a482e0a495e0a58de0a4b6e0a4a8",
  "e0a4a6e0a581e0a4a8e0a4bfe0a4afe0a4bee0a4aae0a58de0a4b0e0a4afe0a58be0a497",
  "e0a485e0a4a8e0a581e0a4b8e0a4bee0a4b0e0a491e0a4a8e0a4b2e0a4bee0a487e0a4a8",
  "e0a4aae0a4bee0a4b0e0a58de0a49fe0a580e0a4b6e0a4b0e0a58de0a4a4e0a58be0a482",
  "e0a4b2e0a58be0a495e0a4b8e0a4ade0a4bee0a4abe0a4bce0a58de0a4b2e0a588e0a4b6",
  "e0a4b6e0a4b0e0a58de0a4a4e0a587e0a482e0a4aae0a58de0a4b0e0a4a6e0a587e0a4b6",
  "e0a4aae0a58de0a4b2e0a587e0a4afe0a4b0e0a495e0a587e0a482e0a4a6e0a58de0a4b0",
  "e0a4b8e0a58de0a4a5e0a4bfe0a4a4e0a4bfe0a489e0a4a4e0a58de0a4aae0a4bee0a4a6",
  "e0a489e0a4a8e0a58de0a4b9e0a587e0a482e0a49ae0a4bfe0a49fe0a58de0a4a0e0a4be",
  "e0a4afe0a4bee0a4a4e0a58de0a4b0e0a4bee0a49ce0a58de0a4afe0a4bee0a4a6e0a4be",
  "e0a4aae0a581e0a4b0e0a4bee0a4a8e0a587e0a49ce0a58be0a4a1e0a4bce0a587e0a482",
  "e0a485e0a4a8e0a581e0a4b5e0a4bee0a4a6e0a4b6e0a58de0a4b0e0a587e0a4a3e0a580",
  "e0a4b6e0a4bfe0a495e0a58de0a4b7e0a4bee0a4b8e0a4b0e0a495e0a4bee0a4b0e0a580",
  "e0a4b8e0a482e0a497e0a58de0a4b0e0a4b9e0a4aae0a4b0e0a4bfe0a4a3e0a4bee0a4ae",
  "e0a4ace0a58de0a4b0e0a4bee0a482e0a4a1e0a4ace0a49ae0a58de0a49ae0a58be0a482",
  "e0a489e0a4aae0a4b2e0a4ace0a58de0a4a7e0a4aee0a482e0a4a4e0a58de0a4b0e0a580",
  "e0a4b8e0a482e0a4aae0a4b0e0a58de0a495e0a489e0a4aee0a58de0a4aee0a580e0a4a6",
  "e0a4aee0a4bee0a4a7e0a58de0a4afe0a4aee0a4b8e0a4b9e0a4bee0a4afe0a4a4e0a4be",
  "e0a4b6e0a4ace0a58de0a4a6e0a58be0a482e0a4aee0a580e0a4a1e0a4bfe0a4afe0a4be",
  "e0a486e0a488e0a4aae0a580e0a48fe0a4b2e0a4aee0a58be0a4ace0a4bee0a487e0a4b2",
  "e0a4b8e0a482e0a496e0a58de0a4afe0a4bee0a486e0a4aae0a4b0e0a587e0a4b6e0a4a8",
  "e0a485e0a4a8e0a581e0a4ace0a482e0a4a7e0a4ace0a4bee0a49ce0a4bce0a4bee0a4b0",
  "e0a4a8e0a4b5e0a580e0a4a8e0a4a4e0a4aee0a4aae0a58de0a4b0e0a4aee0a581e0a496",
  "e0a4aae0a58de0a4b0e0a4b6e0a58de0a4a8e0a4aae0a4b0e0a4bfe0a4b5e0a4bee0a4b0",
  "e0a4a8e0a581e0a495e0a4b8e0a4bee0a4a8e0a4b8e0a4aee0a4b0e0a58de0a4a5e0a4a8",
  "e0a486e0a4afe0a58be0a49ce0a4bfe0a4a4e0a4b8e0a58be0a4aee0a4b5e0a4bee0a4b0",
  "d8a7d984d985d8b4d8a7d8b1d983d8a7d8aad8a7d984d985d986d8aad8afd98ad8a7d8aa",
  "d8a7d984d983d985d8a8d98ad988d8aad8b1d8a7d984d985d8b4d8a7d987d8afd8a7d8aa",
  "d8b9d8afd8afd8a7d984d8b2d988d8a7d8b1d8b9d8afd8afd8a7d984d8b1d8afd988d8af",
  "d8a7d984d8a5d8b3d984d8a7d985d98ad8a9d8a7d984d981d988d8aad988d8b4d988d8a8",
  "d8a7d984d985d8b3d8a7d8a8d982d8a7d8aad8a7d984d985d8b9d984d988d985d8a7d8aa",
  "d8a7d984d985d8b3d984d8b3d984d8a7d8aad8a7d984d8acd8b1d8a7d981d98ad983d8b3",
  "d8a7d984d8a7d8b3d984d8a7d985d98ad8a9d8a7d984d8a7d8aad8b5d8a7d984d8a7d8aa"]

def nineteen : List String := [
  "6b6579776f7264732220636f6e74656e743d2277332e6f72672f313939392f7868746d6c223e",
  "3c61207461726765743d225f626c616e6b2220746578742f68746d6c3b20636861727365743d",
  "22207461726765743d225f626c616e6b223e3c7461626c652063656c6c70616464696e673d22",
  "6175746f636f6d706c6574653d226f66662220746578742d616c69676e3a2063656e7465723b",
  "746f206c6173742076657273696f6e206279206261636b67726f756e642d636f6c6f723a2023",
  "2220687265663d22687474703a2f2f7777772e2f6469763e3c2f6469763e3c6469762069643d",
  "3c6120687265663d22232220636c6173733d22223e3c696d67207372633d22687474703a2f2f",
  "637269707422207372633d22687474703a2f2f0a3c736372697074206c616e67756167653d22",
  "2f2f454e222022687474703a2f2f7777772e77656e636f6465555249436f6d706f6e656e7428",
  "2220687265663d226a6176617363726970743a3c64697620636c6173733d22636f6e74656e74",
  "646f63756d656e742e777269746528273c7363706f736974696f6e3a206162736f6c7574653b",
  "736372697074207372633d22687474703a2f2f207374796c653d226d617267696e2d746f703a",
  "2e6d696e2e6a73223e3c2f7363726970743e0a3c2f6469763e0a3c64697620636c6173733d22",
  "77332e6f72672f313939392f7868746d6c22200a0d0a3c2f626f64793e0d0a3c2f68746d6c3e",
  "64697374696e6374696f6e206265747765656e2f22207461726765743d225f626c616e6b223e",
  "3c6c696e6b20687265663d22687474703a2f2f656e636f64696e673d227574662d38223f3e0a",
  "772e6164644576656e744c697374656e65723f616374696f6e3d22687474703a2f2f7777772e",
  "69636f6e2220687265663d22687474703a2f2f207374796c653d226261636b67726f756e643a",
  "747970653d22746578742f63737322202f3e0a6d6574612070726f70657274793d226f673a74",
  "3c696e70757420747970653d22746578742220207374796c653d22746578742d616c69676e3a",
  "74686520646576656c6f706d656e74206f662074796c6573686565742220747970653d227465",
  "68746d6c3b20636861727365743d7574662d38697320636f6e7369646572656420746f206265",
  "7461626c652077696474683d22313030252220496e206164646974696f6e20746f2074686520",
  "636f6e747269627574656420746f2074686520646966666572656e636573206265747765656e",
  "646576656c6f706d656e74206f662074686520497420697320696d706f7274616e7420746f20",
  "3c2f7363726970743e0a0a3c73637269707420207374796c653d22666f6e742d73697a653a31",
  "3e3c2f7370616e3e3c7370616e2069643d67624c696272617279206f6620436f6e6772657373",
  "3c696d67207372633d22687474703a2f2f696d456e676c697368207472616e736c6174696f6e",
  "41636164656d79206f6620536369656e636573646976207374796c653d22646973706c61793a",
  "636f6e737472756374696f6e206f66207468652e676574456c656d656e744279496428696429",
  "696e20636f6e6a756e6374696f6e2077697468456c656d656e74282773637269707427293b20",
  "3c6d6574612070726f70657274793d226f673ad091d18ad0bbd0b3d0b0d180d181d0bad0b80a",
  "20747970653d227465787422206e616d653d223e5072697661637920506f6c6963793c2f613e",
  "61646d696e6973746572656420627920746865656e61626c6553696e676c6552657175657374",
  "7374796c653d2671756f743b6d617267696e3a3c2f6469763e3c2f6469763e3c2f6469763e3c",
  "3e3c696d67207372633d22687474703a2f2f69207374796c653d2671756f743b666c6f61743a",
  "726566657272656420746f2061732074686520746f74616c20706f70756c6174696f6e206f66",
  "696e2057617368696e67746f6e2c20442e432e207374796c653d226261636b67726f756e642d",
  "616d6f6e67206f74686572207468696e67732c6f7267616e697a6174696f6e206f6620746865",
  "70617274696369706174656420696e2074686574686520696e74726f64756374696f6e206f66",
  "6964656e74696669656420776974682074686566696374696f6e616c20636861726163746572",
  "204f78666f726420556e6976657273697479206d6973756e6465727374616e64696e67206f66",
  "5468657265206172652c20686f77657665722c7374796c6573686565742220687265663d222f",
  "436f6c756d62696120556e6976657273697479657870616e64656420746f20696e636c756465",
  "757375616c6c7920726566657272656420746f696e6469636174696e67207468617420746865",
  "68617665207375676765737465642074686174616666696c6961746564207769746820746865",
  "636f7272656c6174696f6e206265747765656e6e756d626572206f6620646966666572656e74",
  "3e3c2f74643e3c2f74723e3c2f7461626c653e52657075626c6963206f66204972656c616e64",
  "0a3c2f7363726970743e0a3c73637269707420756e6465722074686520696e666c75656e6365",
  "636f6e747269627574696f6e20746f207468654f6666696369616c2077656273697465206f66",
  "686561647175617274657273206f662074686563656e74657265642061726f756e6420746865",
  "696d706c69636174696f6e73206f662074686568617665206265656e20646576656c6f706564",
  "4665646572616c2052657075626c6963206f66626563616d6520696e6372656173696e676c79",
  "636f6e74696e756174696f6e206f66207468654e6f74652c20686f77657665722c2074686174",
  "73696d696c617220746f2074686174206f66206361706162696c6974696573206f6620746865",
  "6163636f7264616e63652077697468207468657061727469636970616e747320696e20746865",
  "6675727468657220646576656c6f706d656e74756e6465722074686520646972656374696f6e",
  "6973206f6674656e20636f6e7369646572656468697320796f756e6765722062726f74686572",
  "3c2f74643e3c2f74723e3c2f7461626c653e3c6120687474702d65717569763d22582d55412d",
  "706879736963616c2070726f706572746965736f66204272697469736820436f6c756d626961",
  "686173206265656e20637269746963697a656428776974682074686520657863657074696f6e",
  "7175657374696f6e732061626f75742074686570617373696e67207468726f75676820746865",
  "30222063656c6c70616464696e673d2230222074686f7573616e6473206f662070656f706c65",
  "72656469726563747320686572652e20466f7268617665206368696c6472656e20756e646572"]

def twenty : List String := [
  "2533452533432f7363726970742533452229293b3c6120687265663d22687474703a2f2f7777772e",
  "3c6c693e3c6120687265663d22687474703a2f2f736974655f6e616d652220636f6e74656e743d22",
  "746578742d6465636f726174696f6e3a6e6f6e657374796c653d22646973706c61793a206e6f6e65",
  "3c6d65746120687474702d65717569763d22582d6e6577204461746528292e67657454696d652829",
  "20747970653d22696d6167652f782d69636f6e223c2f7370616e3e3c7370616e20636c6173733d22",
  "6c616e67756167653d226a61766173637269707477696e646f772e6c6f636174696f6e2e68726566",
  "3c6120687265663d226a6176617363726970743a2d2d3e0d0a3c73637269707420747970653d2274",
  "3c6120687265663d27687474703a2f2f7777772e686f72746375742069636f6e2220687265663d22",
  "3c2f6469763e0d0a3c64697620636c6173733d223c736372697074207372633d22687474703a2f2f",
  "222072656c3d227374796c6573686565742220743c2f6469763e0a3c73637269707420747970653d",
  "2f613e203c6120687265663d22687474703a2f2f20616c6c6f775472616e73706172656e63793d22",
  "582d55412d436f6d70617469626c652220636f6e72656c6174696f6e73686970206265747765656e",
  "0a3c2f7363726970743e0d0a3c736372697074203c2f613e3c2f6c693e3c2f756c3e3c2f6469763e",
  "6173736f6369617465642077697468207468652070726f6772616d6d696e67206c616e6775616765",
  "3c2f613e3c6120687265663d22687474703a2f2f3c2f613e3c2f6c693e3c6c6920636c6173733d22",
  "666f726d20616374696f6e3d22687474703a2f2f3c646976207374796c653d22646973706c61793a",
  "747970653d227465787422206e616d653d2271223c7461626c652077696474683d22313030252220",
  "6261636b67726f756e642d706f736974696f6e3a2220626f726465723d2230222077696474683d22",
  "72656c3d2273686f72746375742069636f6e222068363e3c756c3e3c6c693e3c6120687265663d22",
  "20203c6d65746120687474702d65717569763d2263737322206d656469613d2273637265656e2220",
  "726573706f6e7369626c6520666f7220746865202220747970653d226170706c69636174696f6e2f",
  "22207374796c653d226261636b67726f756e642d68746d6c3b20636861727365743d7574662d3822",
  "20616c6c6f777472616e73706172656e63793d227374796c6573686565742220747970653d227465",
  "0d0a3c6d65746120687474702d65717569763d223e3c2f7370616e3e3c7370616e20636c6173733d",
  "2230222063656c6c73706163696e673d2230223e3b0a3c2f7363726970743e0a3c73637269707420",
  "736f6d6574696d65732063616c6c656420746865646f6573206e6f74206e65636573736172696c79",
  "466f72206d6f726520696e666f726d6174696f6e61742074686520626567696e6e696e67206f6620",
  "3c21444f43545950452068746d6c3e3c68746d6c706172746963756c61726c7920696e2074686520",
  "747970653d2268696464656e22206e616d653d226a6176617363726970743a766f69642830293b22",
  "6566666563746976656e657373206f6620746865206175746f636f6d706c6574653d226f66662220",
  "67656e6572616c6c7920636f6e736964657265643e3c696e70757420747970653d22746578742220",
  "223e3c2f7363726970743e0d0a3c7363726970747468726f7567686f75742074686520776f726c64",
  "636f6d6d6f6e206d6973636f6e63657074696f6e6173736f63696174696f6e207769746820746865",
  "3c2f6469763e0a3c2f6469763e0a3c6469762063647572696e6720686973206c69666574696d652c",
  "636f72726573706f6e64696e6720746f20746865747970653d22696d6167652f782d69636f6e2220",
  "616e20696e6372656173696e67206e756d6265726469706c6f6d617469632072656c6174696f6e73",
  "617265206f6674656e20636f6e736964657265646d65746120636861727365743d227574662d3822",
  "203c696e70757420747970653d227465787422206578616d706c657320696e636c75646520746865",
  "223e3c696d67207372633d22687474703a2f2f6970617274696369706174696f6e20696e20746865",
  "7468652065737461626c6973686d656e74206f660a3c2f6469763e0a3c64697620636c6173733d22",
  "26616d703b6e6273703b26616d703b6e6273703b746f2064657465726d696e652077686574686572",
  "717569746520646966666572656e742066726f6d6d61726b65642074686520626567696e6e696e67",
  "64697374616e6365206265747765656e20746865636f6e747269627574696f6e7320746f20746865",
  "636f6e666c696374206265747765656e20746865776964656c7920636f6e7369646572656420746f",
  "776173206f6e65206f6620746865206669727374776974682076617279696e672064656772656573",
  "686176652073706563756c61746564207468617428646f63756d656e742e676574456c656d656e74",
  "70617274696369706174696e6720696e207468656f726967696e616c6c7920646576656c6f706564",
  "65746120636861727365743d227574662d38223e20747970653d22746578742f63737322202f3e0a",
  "696e7465726368616e676561626c7920776974686d6f726520636c6f73656c792072656c61746564",
  "736f6369616c20616e6420706f6c69746963616c7468617420776f756c64206f7468657277697365",
  "70657270656e646963756c617220746f207468657374796c6520747970653d22746578742f637373",
  "747970653d227375626d697422206e616d653d2266616d696c696573207265736964696e6720696e",
  "646576656c6f70696e6720636f756e7472696573636f6d70757465722070726f6772616d6d696e67",
  "65636f6e6f6d696320646576656c6f706d656e7464657465726d696e6174696f6e206f6620746865",
  "666f72206d6f726520696e666f726d6174696f6e6f6e207365766572616c206f63636173696f6e73",
  "706f7274756775c3aa7320284575726f70657529d0a3d0bad180d0b0d197d0bdd181d18cd0bad0b0",
  "d183d0bad180d0b0d197d0bdd181d18cd0bad0b0d0a0d0bed181d181d0b8d0b9d181d0bad0bed0b9",
  "d0bcd0b0d182d0b5d180d0b8d0b0d0bbd0bed0b2d0b8d0bdd184d0bed180d0bcd0b0d186d0b8d0b8",
  "d183d0bfd180d0b0d0b2d0bbd0b5d0bdd0b8d18fd0bdd0b5d0bed0b1d185d0bed0b4d0b8d0bcd0be",
  "d0b8d0bdd184d0bed180d0bcd0b0d186d0b8d18fd098d0bdd184d0bed180d0bcd0b0d186d0b8d18f",
  "d0a0d0b5d181d0bfd183d0b1d0bbd0b8d0bad0b8d0bad0bed0bbd0b8d187d0b5d181d182d0b2d0be",
  "d0b8d0bdd184d0bed180d0bcd0b0d186d0b8d18ed182d0b5d180d180d0b8d182d0bed180d0b8d0b8",
  "d0b4d0bed181d182d0b0d182d0bed187d0bdd0bed8a7d984d985d8aad988d8a7d8acd8afd988d986",
  "d8a7d984d8a7d8b4d8aad8b1d8a7d983d8a7d8aad8a7d984d8a7d982d8aad8b1d8a7d8add8a7d8aa"]

def twentyOne : List String := [
  "68746d6c3b20636861727365743d5554462d38222073657454696d656f75742866756e6374696f6e2829",
  "646973706c61793a696e6c696e652d626c6f636b3b3c696e70757420747970653d227375626d69742220",
  "74797065203d2027746578742f6a617661736372693c696d67207372633d22687474703a2f2f7777772e",
  "222022687474703a2f2f7777772e77332e6f72672f73686f72746375742069636f6e2220687265663d22",
  "22206175746f636f6d706c6574653d226f666622203c2f613e3c2f6469763e3c64697620636c6173733d",
  "3c2f613e3c2f6c693e0a3c6c6920636c6173733d226373732220747970653d22746578742f6373732220",
  "3c666f726d20616374696f6e3d22687474703a2f2f78742f6373732220687265663d22687474703a2f2f",
  "6c696e6b2072656c3d22616c7465726e61746522200d0a3c73637269707420747970653d22746578742f",
  "206f6e636c69636b3d226a6176617363726970743a286e65772044617465292e67657454696d6528297d",
  "6865696768743d2231222077696474683d2231222050656f706c6527732052657075626c6963206f6620",
  "203c6120687265663d22687474703a2f2f7777772e746578742d6465636f726174696f6e3a756e646572",
  "74686520626567696e6e696e67206f6620746865203c2f6469763e0a3c2f6469763e0a3c2f6469763e0a",
  "65737461626c6973686d656e74206f6620746865203c2f6469763e3c2f6469763e3c2f6469763e3c2f64",
  "2376696577706f72747b6d696e2d6865696768743a0a3c736372697074207372633d22687474703a2f2f",
  "6f7074696f6e3e3c6f7074696f6e2076616c75653d6f6674656e20726566657272656420746f20617320",
  "2f6f7074696f6e3e0a3c6f7074696f6e2076616c753c21444f43545950452068746d6c3e0a3c212d2d5b",
  "496e7465726e6174696f6e616c20416972706f72743e0a3c6120687265663d22687474703a2f2f777777",
  "3c2f613e3c6120687265663d22687474703a2f2f77e0b8a0e0b8b2e0b8a9e0b8b2e0b984e0b897e0b8a2",
  "e183a5e18390e183a0e18397e183a3e1839ae18398e6ada3e9ab94e4b8ade696872028e7b981e9ab9429",
  "e0a4a8e0a4bfe0a4b0e0a58de0a4a6e0a587e0a4b6e0a4a1e0a4bee0a489e0a4a8e0a4b2e0a58be0a4a1",
  "e0a495e0a58de0a4b7e0a587e0a4a4e0a58de0a4b0e0a49ce0a4bee0a4a8e0a495e0a4bee0a4b0e0a580",
  "e0a4b8e0a482e0a4ace0a482e0a4a7e0a4bfe0a4a4e0a4b8e0a58de0a4a5e0a4bee0a4aae0a4a8e0a4be",
  "e0a4b8e0a58de0a4b5e0a580e0a495e0a4bee0a4b0e0a4b8e0a482e0a4b8e0a58de0a495e0a4b0e0a4a3",
  "e0a4b8e0a4bee0a4aee0a497e0a58de0a4b0e0a580e0a49ae0a4bfe0a49fe0a58de0a4a0e0a58be0a482",
  "e0a4b5e0a4bfe0a49ce0a58de0a49ee0a4bee0a4a8e0a485e0a4aee0a587e0a4b0e0a4bfe0a495e0a4be",
  "e0a4b5e0a4bfe0a4ade0a4bfe0a4a8e0a58de0a4a8e0a497e0a4bee0a4a1e0a4bfe0a4afe0a4bee0a481",
  "e0a495e0a58de0a4afe0a58be0a482e0a495e0a4bfe0a4b8e0a581e0a4b0e0a495e0a58de0a4b7e0a4be",
  "e0a4aae0a4b9e0a581e0a481e0a49ae0a4a4e0a580e0a4aae0a58de0a4b0e0a4ace0a482e0a4a7e0a4a8",
  "e0a49fe0a4bfe0a4aae0a58de0a4aae0a4a3e0a580e0a495e0a58de0a4b0e0a4bfe0a495e0a587e0a49f",
  "e0a4aae0a58de0a4b0e0a4bee0a4b0e0a482e0a4ade0a4aae0a58de0a4b0e0a4bee0a4aae0a58de0a4a4",
  "e0a4aee0a4bee0a4b2e0a4bfe0a495e0a58be0a482e0a4b0e0a4abe0a4bce0a58de0a4a4e0a4bee0a4b0",
  "e0a4a8e0a4bfe0a4b0e0a58de0a4aee0a4bee0a4a3e0a4b2e0a4bfe0a4aee0a4bfe0a49fe0a587e0a4a1"]

def twentyTwo : List String := [
  "6465736372697074696f6e2220636f6e74656e743d22646f63756d656e742e6c6f636174696f6e2e70726f74",
  "2e676574456c656d656e747342795461674e616d65283c21444f43545950452068746d6c3e0a3c68746d6c20",
  "3c6d65746120636861727365743d227574662d38223e3a75726c2220636f6e74656e743d22687474703a2f2f",
  "2e637373222072656c3d227374796c657368656574227374796c6520747970653d22746578742f637373223e",
  "747970653d22746578742f6373732220687265663d2277332e6f72672f313939392f7868746d6c2220786d6c",
  "747970653d22746578742f6a61766173637269707422206d6574686f643d226765742220616374696f6e3d22",
  "6c696e6b2072656c3d227374796c6573686565742220203d20646f63756d656e742e676574456c656d656e74",
  "747970653d22696d6167652f782d69636f6e22202f3e63656c6c70616464696e673d2230222063656c6c7370",
  "2e6373732220747970653d22746578742f63737322203c2f613e3c2f6c693e3c6c693e3c6120687265663d22",
  "222077696474683d223122206865696768743d223122223e3c6120687265663d22687474703a2f2f7777772e",
  "7374796c653d22646973706c61793a6e6f6e653b223e616c7465726e6174652220747970653d226170706c69",
  "2d2f2f5733432f2f445444205848544d4c20312e3020656c6c73706163696e673d2230222063656c6c706164",
  "20747970653d2268696464656e222076616c75653d222f613e266e6273703b3c7370616e20726f6c653d2273",
  "0a3c696e70757420747970653d2268696464656e22206c616e67756167653d224a6176615363726970742220",
  "20646f63756d656e742e676574456c656d656e747342673d2230222063656c6c73706163696e673d22302220",
  "7970653d22746578742f63737322206d656469613d22747970653d27746578742f6a61766173637269707427",
  "776974682074686520657863657074696f6e206f66207970653d22746578742f637373222072656c3d227374",
  "206865696768743d2231222077696474683d223122203d272b656e636f6465555249436f6d706f6e656e7428",
  "3c6c696e6b2072656c3d22616c7465726e61746522200a626f64792c2074722c20696e7075742c2074657874",
  "6d657461206e616d653d22726f626f74732220636f6e6d6574686f643d22706f73742220616374696f6e3d22",
  "3e0a3c6120687265663d22687474703a2f2f7777772e637373222072656c3d227374796c6573686565742220",
  "3c2f6469763e3c2f6469763e3c64697620636c6173736c616e67756167653d226a617661736372697074223e",
  "617269612d68696464656e3d2274727565223ec2b73c726970742220747970653d22746578742f6a61766173",
  "6c3d303b7d2928293b0a2866756e6374696f6e28297b6261636b67726f756e642d696d6167653a2075726c28",
  "2f613e3c2f6c693e3c6c693e3c6120687265663d226809093c6c693e3c6120687265663d22687474703a2f2f",
  "61746f722220617269612d68696464656e3d227472753e203c6120687265663d22687474703a2f2f7777772e",
  "6c616e67756167653d226a61766173637269707422202f6f7074696f6e3e0a3c6f7074696f6e2076616c7565",
  "2f6469763e3c2f6469763e3c64697620636c6173733d7261746f722220617269612d68696464656e3d227472",
  "653d286e65772044617465292e67657454696d652829706f7274756775c3aa732028646f2042726173696c29",
  "d0bed180d0b3d0b0d0bdd0b8d0b7d0b0d186d0b8d0b8d0b2d0bed0b7d0bcd0bed0b6d0bdd0bed181d182d18c",
  "d0bed0b1d180d0b0d0b7d0bed0b2d0b0d0bdd0b8d18fd180d0b5d0b3d0b8d181d182d180d0b0d186d0b8d0b8",
  "d0b2d0bed0b7d0bcd0bed0b6d0bdd0bed181d182d0b8d0bed0b1d18fd0b7d0b0d182d0b5d0bbd18cd0bdd0b0"]

def twentyThree : List String := [
  "3c21444f43545950452068746d6c205055424c494320226e742d547970652220636f6e74656e743d22746578742f",
  "3c6d65746120687474702d65717569763d22436f6e746572616e736974696f6e616c2f2f454e222022687474703a",
  "3c68746d6c20786d6c6e733d22687474703a2f2f7777772d2f2f5733432f2f445444205848544d4c20312e302054",
  "4454442f7868746d6c312d7472616e736974696f6e616c2f2f7777772e77332e6f72672f54522f7868746d6c312f",
  "7065203d2027746578742f6a617661736372697074273b3c6d657461206e616d653d226465736372697074696f6e",
  "706172656e744e6f64652e696e736572744265666f72653c696e70757420747970653d2268696464656e22206e61",
  "6a732220747970653d22746578742f6a6176617363726928646f63756d656e74292e72656164792866756e637469",
  "73637269707420747970653d22746578742f6a61766173696d6167652220636f6e74656e743d22687474703a2f2f",
  "55412d436f6d70617469626c652220636f6e74656e743d746d6c3b20636861727365743d7574662d3822202f3e0a",
  "6c696e6b2072656c3d2273686f72746375742069636f6e3c6c696e6b2072656c3d227374796c6573686565742220",
  "3c2f7363726970743e0a3c73637269707420747970653d3d20646f63756d656e742e637265617465456c656d656e",
  "3c61207461726765743d225f626c616e6b2220687265663d20646f63756d656e742e676574456c656d656e747342",
  "696e70757420747970653d227465787422206e616d653d612e74797065203d2027746578742f6a61766173637269",
  "6e70757420747970653d2268696464656e22206e616d6568746d6c3b20636861727365743d7574662d3822202f3e",
  "647464223e0a3c68746d6c20786d6c6e733d22687474702d2f2f5733432f2f4454442048544d4c20342e30312054",
  "656e747342795461674e616d6528277363726970742729696e70757420747970653d2268696464656e22206e616d"]

def twentyFour : List String := [
  "3c73637269707420747970653d22746578742f6a61766173",
  "22207374796c653d22646973706c61793a6e6f6e653b223e",
  "646f63756d656e742e676574456c656d656e744279496428",
  "3d646f63756d656e742e637265617465456c656d656e7428",
  "2720747970653d27746578742f6a61766173637269707427",
  "696e70757420747970653d227465787422206e616d653d22",
  "642e676574456c656d656e747342795461674e616d652873",
  "6e6963616c2220687265663d22687474703a2f2f7777772e",
  "432f2f4454442048544d4c20342e3031205472616e736974",
  "3c7374796c6520747970653d22746578742f637373223e0a",
  "0a3c7374796c6520747970653d22746578742f637373223e",
  "696f6e616c2e647464223e0a3c68746d6c20786d6c6e733d",
  "687474702d65717569763d22436f6e74656e742d54797065",
  "64696e673d2230222063656c6c73706163696e673d223022",
  "68746d6c3b20636861727365743d7574662d3822202f3e0a",
  "207374796c653d22646973706c61793a6e6f6e653b223e3c",
  "3c6c693e3c6120687265663d22687474703a2f2f7777772e",
  "20747970653d27746578742f6a617661736372697074273e",
  "d0b4d0b5d18fd182d0b5d0bbd18cd0bdd0bed181d182d0b8",
  "d181d0bed0bed182d0b2d0b5d182d181d182d0b2d0b8d0b8",
  "d0bfd180d0bed0b8d0b7d0b2d0bed0b4d181d182d0b2d0b0",
  "d0b1d0b5d0b7d0bed0bfd0b0d181d0bdd0bed181d182d0b8",
  "e0a4aae0a581e0a4b8e0a58de0a4a4e0a4bfe0a495e0a4be",
  "e0a495e0a4bee0a482e0a497e0a58de0a4b0e0a587e0a4b8",
  "e0a489e0a4a8e0a58de0a4b9e0a58be0a482e0a4a8e0a587",
  "e0a4b5e0a4bfe0a4a7e0a4bee0a4a8e0a4b8e0a4ade0a4be",
  "e0a4abe0a4bfe0a495e0a58de0a4b8e0a4bfe0a482e0a497",
  "e0a4b8e0a581e0a4b0e0a495e0a58de0a4b7e0a4bfe0a4a4",
  "e0a495e0a589e0a4aae0a580e0a4b0e0a4bee0a487e0a49f",
  "e0a4b5e0a4bfe0a49ce0a58de0a49ee0a4bee0a4aae0a4a8",
  "e0a495e0a4bee0a4b0e0a58de0a4b0e0a4b5e0a4bee0a488",
  "e0a4b8e0a495e0a58de0a4b0e0a4bfe0a4afe0a4a4e0a4be"]

end StreamCodec.Format.Brotli.Words
