/-!
# Dictionary words of eleven to thirteen bytes

The words of each length stand one after another, in hexadecimal digits.
-/
namespace StreamCodec.Format.Brotli.Words

def eleven : List String := [
  "7342795461674e616d65282e6a70672220616c743d2231707820736f6c696420232e6769662220616c743d22",
  "7472616e73706172656e74696e666f726d6174696f6e6170706c69636174696f6e22206f6e636c69636b3d22",
  "65737461626c69736865646164766572746973696e672e706e672220616c743d22656e7669726f6e6d656e74",
  "706572666f726d616e6365617070726f70726961746526616d703b6d646173683b696d6d6564696174656c79",
  "3c2f7374726f6e673e3c2f726174686572207468616e74656d7065726174757265646576656c6f706d656e74",
  "636f6d7065746974696f6e706c616365686f6c6465727669736962696c6974793a636f70797269676874223e",
  "3022206865696768743d226576656e2074686f7567687265706c6163656d656e7464657374696e6174696f6e",
  "436f72706f726174696f6e3c756c20636c6173733d224173736f63696174696f6e696e646976696475616c73",
  "706572737065637469766573657454696d656f75742875726c28687474703a2f2f6d617468656d6174696373",
  "6d617267696e2d746f703a6576656e7475616c6c79206465736372697074696f6e29206e6f2d726570656174",
  "636f6c6c656374696f6e732e4a50477c7468756d627c70617274696369706174652f686561643e3c626f6479",
  "666c6f61743a6c6566743b3c6c6920636c6173733d2268756e6472656473206f660a0a486f77657665722c20",
  "636f6d706f736974696f6e636c6561723a626f74683b636f6f7065726174696f6e77697468696e2074686520",
  "6c6162656c20666f723d22626f726465722d746f703a4e6577205a65616c616e647265636f6d6d656e646564",
  "70686f746f677261706879696e746572657374696e67266c743b7375702667743b636f6e74726f7665727379",
  "4e65746865726c616e6473616c7465726e61746976656d61786c656e6774683d22737769747a65726c616e64",
  "446576656c6f706d656e74657373656e7469616c6c790a0a416c74686f756768203c2f74657874617265613e",
  "7468756e64657262697264726570726573656e74656426616d703b6e646173683b73706563756c6174696f6e",
  "636f6d6d756e69746965736c656769736c6174696f6e656c656374726f6e6963730a093c6469762069643d22",
  "696c6c7573747261746564656e67696e656572696e677465727269746f72696573617574686f726974696573",
  "64697374726962757465643622206865696768743d2273616e732d73657269663b63617061626c65206f6620",
  "6469736170706561726564696e7465726163746976656c6f6f6b696e6720666f72697420776f756c64206265",
  "41666768616e697374616e77617320637265617465644d6174682e666c6f6f7228737572726f756e64696e67",
  "63616e20616c736f2062656f62736572766174696f6e6d61696e74656e616e6365656e636f756e7465726564",
  "3c683220636c6173733d226d6f726520726563656e74697420686173206265656e696e766173696f6e206f66",
  "292e67657454696d65282966756e64616d656e74616c4465737069746520746865223e3c6469762069643d22",
  "696e737069726174696f6e6578616d696e6174696f6e7072657061726174696f6e6578706c616e6174696f6e",
  "3c696e7075742069643d223c2f613e3c2f7370616e3e76657273696f6e73206f66696e737472756d656e7473",
  "6265666f72652074686520203d2027687474703a2f2f4465736372697074696f6e72656c61746976656c7920",
  "2e737562737472696e672865616368206f66207468656578706572696d656e7473696e666c75656e7469616c",
  "696e746567726174696f6e6d616e792070656f706c6564756520746f2074686520636f6d62696e6174696f6e",
  "646f206e6f7420686176654d6964646c6520456173743c6e6f7363726970743e3c636f707972696768742220",
  "7065726861707320746865696e737469747574696f6e696e20446563656d626572617272616e67656d656e74",
  "6d6f73742066616d6f7573706572736f6e616c6974796372656174696f6e206f666c696d69746174696f6e73",
  "6578636c75736976656c79736f7665726569676e74792d636f6e74656e74223e0a3c746420636c6173733d22",
  "756e64657267726f756e64706172616c6c656c20746f646f637472696e65206f666f63637570696564206279",
  "7465726d696e6f6c6f677952656e61697373616e636561206e756d626572206f66737570706f727420666f72",
  "6578706c6f726174696f6e7265636f676e6974696f6e7072656465636573736f723c696d67207372633d222f",
  "3c683120636c6173733d227075626c69636174696f6e6d617920616c736f2062657370656369616c697a6564",
  "3c2f6669656c647365743e70726f67726573736976656d696c6c696f6e73206f667374617465732074686174",
  "656e666f7263656d656e7461726f756e6420746865206f6e6520616e6f746865722e706172656e744e6f6465",
  "6167726963756c74757265416c7465726e61746976657265736561726368657273746f776172647320746865",
  "4d6f7374206f66207468656d616e79206f746865722028657370656369616c6c793c74642077696474683d22",
  "3b77696474683a31303025696e646570656e64656e743c683320636c6173733d22206f6e6368616e67653d22",
  "292e616464436c61737328696e746572616374696f6e4f6e65206f6620746865206461756768746572206f66",
  "6163636573736f726965736272616e63686573206f660d0a3c6469762069643d22746865206c617267657374",
  "6465636c61726174696f6e726567756c6174696f6e73496e666f726d6174696f6e7472616e736c6174696f6e",
  "646f63756d656e74617279696e206f7264657220746f223e0a3c686561643e0a3c22206865696768743d2231",
  "6163726f737320746865206f7269656e746174696f6e293b3c2f7363726970743e696d706c656d656e746564",
  "63616e206265207365656e746865726520776173206164656d6f6e737472617465636f6e7461696e6572223e",
  "636f6e6e656374696f6e737468652042726974697368776173207772697474656e21696d706f7274616e743b",
  "70783b206d617267696e2d666f6c6c6f7765642062796162696c69747920746f20636f6d706c696361746564",
  "647572696e672074686520696d6d6967726174696f6e616c736f2063616c6c65643c683420636c6173733d22",
  "64697374696e6374696f6e7265706c61636564206279676f7665726e6d656e74736c6f636174696f6e206f66",
  "696e204e6f76656d62657277686574686572207468653c2f703e0a3c2f6469763e6163717569736974696f6e",
  "63616c6c656420746865207065727365637574696f6e64657369676e6174696f6e7b666f6e742d73697a653a",
  "617070656172656420696e696e766573746967617465657870657269656e6365646d6f7374206c696b656c79",
  "776964656c79207573656464697363757373696f6e7370726573656e6365206f662028646f63756d656e742e",
  "657874656e736976656c79497420686173206265656e697420646f6573206e6f74636f6e747261727920746f",
  "696e6861626974616e7473696d70726f76656d656e747363686f6c617273686970636f6e73756d7074696f6e",
  "696e737472756374696f6e666f72206578616d706c656f6e65206f72206d6f726570783b2070616464696e67",
  "7468652063757272656e746120736572696573206f6661726520757375616c6c79726f6c6520696e20746865",
  "70726576696f75736c7920646572697661746976657365766964656e6365206f66657870657269656e636573",
  "636f6c6f72736368656d65737461746564207468617463657274696669636174653c2f613e3c2f6469763e0a",
  "2073656c65637465643d2268696768207363686f6f6c726573706f6e736520746f636f6d666f727461626c65",
  "61646f7074696f6e206f66746872656520796561727374686520636f756e747279696e204665627275617279",
  "736f20746861742074686570656f706c652077686f2070726f76696465642062793c706172616d206e616d65",
  "6166666563746564206279696e207465726d73206f666170706f696e746d656e7449534f2d383835392d3122",
  "77617320626f726e20696e686973746f726963616c2072656761726465642061736d6561737572656d656e74",
  "6973206261736564206f6e20616e64206f74686572203a2066756e6374696f6e287369676e69666963616e74",
  "63656c6562726174696f6e7472616e736d69747465642f6a732f6a71756572792e6973206b6e6f776e206173",
  "7468656f7265746963616c20746162696e6465783d22697420636f756c642062653c6e6f7363726970743e0a",
  "686176696e67206265656e0d0a3c686561643e0d0a3c202671756f743b54686520636f6d70696c6174696f6e",
  "686520686164206265656e70726f64756365642062797068696c6f736f70686572636f6e7374727563746564",
  "696e74656e64656420746f616d6f6e67206f74686572636f6d706172656420746f746f207361792074686174",
  "456e67696e656572696e676120646966666572656e74726566657272656420746f646966666572656e636573",
  "62656c696566207468617470686f746f6772617068736964656e74696679696e67486973746f7279206f6620",
  "52657075626c6963206f666e65636573736172696c7970726f626162696c697479746563686e6963616c6c79",
  "6c656176696e672074686573706563746163756c61726672616374696f6e206f66656c656374726963697479",
  "68656164206f662074686572657374617572616e7473706172746e657273686970656d706861736973206f6e",
  "6d6f737420726563656e747368617265207769746820736179696e67207468617466696c6c65642077697468",
  "64657369676e656420746f6974206973206f6674656e223e3c2f696672616d653e617320666f6c6c6f77733a",
  "6d657267656420776974687468726f75676820746865636f6d6d65726369616c20706f696e746564206f7574",
  "6f70706f7274756e69747976696577206f6620746865726571756972656d656e746469766973696f6e206f66",
  "70726f6772616d6d696e676865207265636569766564736574496e74657276616c223e3c2f7370616e3e3c2f",
  "696e204e657720596f726b6164646974696f6e616c20636f6d7072657373696f6e0a0a3c6469762069643d22",
  "696e636f72706f726174653b3c2f7363726970743e3c6174746163684576656e74626563616d652074686520",
  "22207461726765743d225f63617272696564206f7574536f6d65206f6620746865736369656e636520616e64",
  "7468652074696d65206f66436f6e7461696e6572223e6d61696e7461696e696e674368726973746f70686572",
  "4d756368206f662074686577726974696e6773206f6622206865696768743d223273697a65206f6620746865",
  "76657273696f6e206f66206d697874757265206f66206265747765656e207468654578616d706c6573206f66",
  "656475636174696f6e616c636f6d7065746974697665206f6e7375626d69743d226469726563746f72206f66",
  "64697374696e63746976652f445444205848544d4c2072656c6174696e6720746f74656e64656e637920746f",
  "70726f76696e6365206f66776869636820776f756c646465737069746520746865736369656e746966696320",
  "6c656769736c61747572652e696e6e657248544d4c20616c6c65676174696f6e734167726963756c74757265",
  "776173207573656420696e617070726f61636820746f696e74656c6c6967656e747965617273206c61746572",
  "2c73616e732d736572696664657465726d696e696e67506572666f726d616e6365617070656172616e636573",
  "2c20776869636820697320666f756e646174696f6e736162627265766961746564686967686572207468616e",
  "732066726f6d2074686520696e646976696475616c20636f6d706f736564206f66737570706f73656420746f",
  "636c61696d7320746861746174747269627574696f6e666f6e742d73697a653a31656c656d656e7473206f66",
  "486973746f726963616c206869732062726f746865726174207468652074696d65616e6e6976657273617279",
  "676f7665726e656420627972656c6174656420746f20756c74696d6174656c7920696e6e6f766174696f6e73",
  "6974206973207374696c6c63616e206f6e6c79206265646566696e6974696f6e73746f474d54537472696e67",
  "41206e756d626572206f66696d6720636c6173733d224576656e7475616c6c792c776173206368616e676564",
  "6f6363757272656420696e6e65696768626f72696e6764697374696e67756973687768656e20686520776173",
  "696e74726f647563696e67746572726573747269616c4d616e79206f66207468656172677565732074686174",
  "616e20416d65726963616e636f6e7175657374206f66776964657370726561642077657265206b696c6c6564",
  "73637265656e20616e6420496e206f7264657220746f657870656374656420746f64657363656e64616e7473",
  "617265206c6f63617465646c656769736c617469766567656e65726174696f6e73206261636b67726f756e64",
  "6d6f73742070656f706c6579656172732061667465727468657265206973206e6f7468652068696768657374",
  "6672657175656e746c79207468657920646f206e6f74617267756564207468617473686f7765642074686174",
  "707265646f6d696e616e747468656f6c6f676963616c6279207468652074696d65636f6e7369646572696e67",
  "73686f72742d6c697665643c2f7370616e3e3c2f613e63616e206265207573656476657279206c6974746c65",
  "6f6e65206f66207468652068616420616c7265616479696e746572707265746564636f6d6d756e6963617465",
  "6665617475726573206f66676f7665726e6d656e742c3c2f6e6f7363726970743e656e746572656420746865",
  "22206865696768743d2233496e646570656e64656e74706f70756c6174696f6e736c617267652d7363616c65",
  "2e20416c74686f756768207573656420696e207468656465737472756374696f6e706f73736962696c697479",
  "7374617274696e6720696e74776f206f72206d6f726565787072657373696f6e737375626f7264696e617465",
  "6c6172676572207468616e686973746f727920616e643c2f6f7074696f6e3e0d0a436f6e74696e656e74616c",
  "656c696d696e6174696e6777696c6c206e6f742062657072616374696365206f66696e2066726f6e74206f66",
  "73697465206f6620746865656e737572652074686174746f2063726561746520616d69737369737369707069",
  "706f74656e7469616c6c796f75747374616e64696e67626574746572207468616e77686174206973206e6f77",
  "736974756174656420696e6d657461206e616d653d22547261646974696f6e616c73756767657374696f6e73",
  "5472616e736c6174696f6e74686520666f726d206f6661746d6f737068657269636964656f6c6f676963616c",
  "656e74657270726973657363616c63756c6174696e6765617374206f662074686572656d6e616e7473206f66",
  "706c7567696e73706167652f696e6465782e7068703f72656d61696e656420696e7472616e73666f726d6564",
  "48652077617320616c736f77617320616c7265616479737461746973746963616c696e206661766f72206f66",
  "4d696e6973747279206f666d6f76656d656e74206f66666f726d756c6174696f6e6973207265717569726564",
  "3c6c696e6b2072656c3d225468697320697320746865203c6120687265663d222f706f70756c6172697a6564",
  "696e766f6c76656420696e617265207573656420746f616e64207365766572616c6d61646520627920746865",
  "7365656d7320746f2062656c696b656c79207468617450616c657374696e69616e6e616d6564206166746572",
  "697420686164206265656e6d6f737420636f6d6d6f6e746f20726566657220746f6275742074686973206973",
  "636f6e736563757469766574656d706f726172696c79496e2067656e6572616c2c636f6e76656e74696f6e73",
  "74616b657320706c6163657375626469766973696f6e7465727269746f7269616c6f7065726174696f6e616c",
  "7065726d616e656e746c79776173206c617267656c796f7574627265616b206f66696e207468652070617374",
  "666f6c6c6f77696e67206120786d6c6e733a6f673d223e3c6120636c6173733d22636c6173733d2274657874",
  "436f6e76657273696f6e206d617920626520757365646d616e75666163747572656166746572206265696e67",
  "636c656172666978223e0a7175657374696f6e206f6677617320656c6563746564746f206265636f6d652061",
  "62656361757365206f6620736f6d652070656f706c65696e7370697265642062797375636365737366756c20",
  "612074696d65207768656e6d6f726520636f6d6d6f6e616d6f6e67737420746865616e206f6666696369616c",
  "77696474683a313030253b746563686e6f6c6f67792c7761732061646f70746564746f206b65657020746865",
  "736574746c656d656e74736c69766520626972746873696e6465782e68746d6c22436f6e6e65637469637574",
  "61737369676e656420746f26616d703b74696d65733b6163636f756e7420666f72616c69676e3d7269676874",
  "74686520636f6d70616e79616c77617973206265656e72657475726e656420746f696e766f6c76656d656e74",
  "42656361757365207468657468697320706572696f6422206e616d653d22712220636f6e66696e656420746f",
  "6120726573756c74206f6676616c75653d2222202f3e69732061637475616c6c79456e7669726f6e6d656e74",
  "0d0a3c2f686561643e0d0a436f6e76657273656c792c3e0a3c6469762069643d2230222077696474683d2231",
  "69732070726f6261626c7968617665206265636f6d65636f6e74726f6c6c696e677468652070726f626c656d",
  "636974697a656e73206f66706f6c6974696369616e7372656163686564207468656173206561726c79206173",
  "3a6e6f6e653b206f7665723c7461626c652063656c6c76616c6964697479206f666469726563746c7920746f",
  "6f6e6d6f757365646f776e77686572652069742069737768656e206974207761736d656d62657273206f6620",
  "72656c6174696f6e20746f6163636f6d6d6f64617465616c6f6e67207769746820496e20746865206c617465",
  "74686520456e676c69736864656c6963696f7573223e74686973206973206e6f747468652070726573656e74",
  "6966207468657920617265616e642066696e616c6c7961206d6174746572206f660d0a093c2f6469763e0d0a",
  "0d0a3c2f7363726970743e666173746572207468616e6d616a6f72697479206f666166746572207768696368",
  "636f6d7061726174697665746f206d61696e7461696e696d70726f7665207468656177617264656420746865",
  "65722220636c6173733d226672616d65626f72646572726573746f726174696f6e696e207468652073616d65",
  "616e616c79736973206f667468656972206669727374447572696e672074686520636f6e74696e656e74616c",
  "73657175656e6365206f6666756e6374696f6e28297b666f6e742d73697a653a20776f726b206f6e20746865",
  "3c2f7363726970743e0a3c626567696e7320776974686a6176617363726970743a636f6e7374697475656e74",
  "77617320666f756e646564657175696c69627269756d617373756d652074686174697320676976656e206279",
  "6e6565647320746f206265636f6f7264696e6174657374686520766172696f75736172652070617274206f66",
  "6f6e6c7920696e2074686573656374696f6e73206f666973206120636f6d6d6f6e7468656f72696573206f66",
  "646973636f7665726965736173736f63696174696f6e65646765206f6620746865737472656e677468206f66",
  "706f736974696f6e20696e70726573656e742d646179756e6976657273616c6c79746f20666f726d20746865",
  "62757420696e7374656164636f72706f726174696f6e617474616368656420746f697320636f6d6d6f6e6c79",
  "726561736f6e7320666f72202671756f743b7468652063616e206265206d6164657761732061626c6520746f",
  "7768696368206d65616e7362757420646964206e6f746f6e4d6f7573654f766572617320706f737369626c65",
  "6f70657261746564206279636f6d696e672066726f6d746865207072696d6172796164646974696f6e206f66",
  "666f72207365766572616c7472616e736665727265646120706572696f64206f666172652061626c6520746f",
  "686f77657665722c20697473686f756c6420686176656d756368206c61726765720a093c2f7363726970743e",
  "61646f707465642074686570726f7065727479206f6664697265637465642062796566666563746976656c79",
  "7761732062726f756768746368696c6472656e206f6650726f6772616d6d696e676c6f6e676572207468616e",
  "6d616e757363726970747377617220616761696e73746279206d65616e73206f66616e64206d6f7374206f66",
  "73696d696c617220746f2070726f70726965746172796f726967696e6174696e6770726573746967696f7573",
  "6772616d6d61746963616c657870657269656e63652e746f206d616b652074686549742077617320616c736f",
  "697320666f756e6420696e636f6d70657469746f7273696e2074686520552e532e7265706c61636520746865",
  "62726f756768742074686563616c63756c6174696f6e66616c6c206f66207468657468652067656e6572616c",
  "70726163746963616c6c79696e20686f6e6f72206f6672656c656173656420696e7265736964656e7469616c",
  "616e6420736f6d65206f666b696e67206f66207468657265616374696f6e20746f317374204561726c206f66",
  "63756c7475726520616e647072696e636970616c6c793c2f7469746c653e0a2020746865792063616e206265",
  "6261636b20746f20746865736f6d65206f66206869736578706f7375726520746f6172652073696d696c6172",
  "666f726d206f66207468656164644661766f72697465636974697a656e736869707061727420696e20746865",
  "70656f706c652077697468696e207072616374696365746f20636f6e74696e756526616d703b6d696e75733b",
  "617070726f7665642062792074686520666972737420616c6c6f77656420746865616e6420666f7220746865",
  "66756e6374696f6e696e67706c6179696e6720746865736f6c7574696f6e20746f6865696768743d22302220",
  "696e2068697320626f6f6b6d6f7265207468616e2061666f6c6c6f7773207468656372656174656420746865",
  "70726573656e636520696e266e6273703b3c2f74643e6e6174696f6e616c6973747468652069646561206f66",
  "61206368617261637465727765726520666f7263656420636c6173733d2262746e64617973206f6620746865",
  "666561747572656420696e73686f77696e6720746865696e74657265737420696e696e20706c616365206f66",
  "7475726e206f66207468657468652068656164206f664c6f7264206f6620746865706f6c69746963616c6c79",
  "68617320697473206f776e456475636174696f6e616c617070726f76616c206f66736f6d65206f6620746865",
  "65616368206f746865722c6265686176696f72206f66616e642062656361757365616e6420616e6f74686572",
  "6170706561726564206f6e7265636f7264656420696e626c61636b2671756f743b6d617920696e636c756465",
  "74686520776f726c64277363616e206c65616420746f72656665727320746f2061626f726465723d22302220",
  "676f7665726e6d656e742077696e6e696e6720746865726573756c74656420696e207768696c652074686520",
  "57617368696e67746f6e2c746865207375626a6563746369747920696e207468653e3c2f6469763e0d0a0909",
  "7265666c65637420746865746f20636f6d706c657465626563616d65206d6f7265726164696f616374697665",
  "72656a6563746564206279776974686f757420616e79686973206661746865722c776869636820636f756c64",
  "636f7079206f6620746865746f20696e6469636174656120706f6c69746963616c6163636f756e7473206f66",
  "636f6e7374697475746573776f726b6564207769746865723c2f613e3c2f6c693e6f6620686973206c696665",
  "6163636f6d70616e696564636c69656e74576964746870726576656e74207468654c656769736c6174697665",
  "646966666572656e746c79746f67657468657220696e686173207365766572616c666f7220616e6f74686572",
  "74657874206f6620746865666f756e6465642074686565207769746820746865206973207573656420666f72",
  "6368616e67656420746865757375616c6c7920746865706c6163652077686572657768657265617320746865",
  "3e203c6120687265663d22223e3c6120687265663d227468656d73656c7665732c616c74686f756768206865",
  "746861742063616e206265747261646974696f6e616c726f6c65206f66207468656173206120726573756c74",
  "72656d6f76654368696c6464657369676e656420627977657374206f6620746865536f6d652070656f706c65",
  "70726f64756374696f6e2c73696465206f66207468656e6577736c6574746572737573656420627920746865",
  "646f776e20746f2074686561636365707465642062796c69766520696e20746865617474656d70747320746f",
  "6f757473696465207468656672657175656e63696573486f77657665722c20696e70726f6772616d6d657273",
  "6174206c6561737420696e617070726f78696d617465616c74686f7567682069747761732070617274206f66",
  "616e6420766172696f7573476f7665726e6f72206f667468652061727469636c657475726e656420696e746f",
  "3e3c6120687265663d222f7468652065636f6e6f6d79697320746865206d6f73746d6f737420776964656c79",
  "776f756c64206c61746572616e6420706572686170737269736520746f207468656f6363757273207768656e",
  "756e646572207768696368636f6e646974696f6e732e746865207765737465726e7468656f72792074686174",
  "69732070726f64756365647468652063697479206f66696e2077686963682068657365656e20696e20746865",
  "7468652063656e7472616c6275696c64696e67206f666d616e79206f662068697361726561206f6620746865",
  "697320746865206f6e6c796d6f7374206f66207468656d616e79206f6620746865746865205765737465726e",
  "5468657265206973206e6f657874656e64656420746f537461746973746963616c636f6c7370616e3d32207c",
  "73686f72742073746f7279706f737369626c6520746f746f706f6c6f676963616c637269746963616c206f66",
  "7265706f7274656420746f612043687269737469616e6465636973696f6e20746f697320657175616c20746f",
  "70726f626c656d73206f66546869732063616e2062656d65726368616e64697365666f72206d6f7374206f66",
  "6e6f2065766964656e636565646974696f6e73206f66656c656d656e747320696e2671756f743b2e20546865",
  "636f6d2f696d616765732f7768696368206d616b65737468652070726f6365737372656d61696e7320746865",
  "6c6974657261747572652c69732061206d656d62657274686520706f70756c617274686520616e6369656e74",
  "70726f626c656d7320696e74696d65206f66207468656465666561746564206279626f6479206f6620746865",
  "61206665772079656172736d756368206f662074686574686520776f726b206f6643616c69666f726e69612c",
  "7365727665642061732061676f7665726e6d656e742e636f6e6365707473206f666d6f76656d656e7420696e",
  "09093c6469762069643d226974222076616c75653d226c616e6775616765206f666173207468657920617265",
  "70726f647563656420696e69732074686174207468656578706c61696e207468656469763e3c2f6469763e0a",
  "486f7765766572207468656c65616420746f20746865093c6120687265663d222f776173206772616e746564",
  "70656f706c652068617665636f6e74696e75616c6c79776173207365656e206173616e642072656c61746564",
  "74686520726f6c65206f6670726f706f7365642062796f6620746865206265737465616368206f746865722e",
  "436f6e7374616e74696e6570656f706c652066726f6d6469616c65637473206f66746f207265766973696f6e",
  "7761732072656e616d65646120736f75726365206f6674686520696e697469616c6c61756e6368656420696e",
  "70726f7669646520746865746f2074686520776573747768657265207468657265616e642073696d696c6172",
  "6265747765656e2074776f697320616c736f20746865456e676c69736820616e64636f6e646974696f6e732c",
  "7468617420697420776173656e7469746c656420746f7468656d73656c7665732e7175616e74697479206f66",
  "72616e73706172656e63797468652073616d65206173746f206a6f696e20746865636f756e74727920616e64",
  "746869732069732074686554686973206c656420746f612073746174656d656e74636f6e747261737420746f",
  "6c617374496e6465784f667468726f7567682068697369732064657369676e6564746865207465726d206973",
  "69732070726f766964656470726f74656374207468656e673c2f613e3c2f6c693e5468652063757272656e74",
  "7468652073697465206f667375627374616e7469616c657870657269656e63652c696e207468652057657374",
  "746865792073686f756c64736c6f76656ec48d696e61636f6d656e746172696f73756e697665727369646164",
  "636f6e646963696f6e65736163746976696461646573657870657269656e6369617465636e6f6c6f67c3ad61",
  "70726f6475636369c3b36e70756e7475616369c3b36e61706c6963616369c3b36e636f6e7472617365c3b161",
  "63617465676f72c3ad6173726567697374726172736570726f666573696f6e616c74726174616d69656e746f",
  "726567c3ad7374726174657365637265746172c3ad617072696e636970616c657370726f7465636369c3b36e",
  "696d706f7274616e746573696d706f7274616e636961706f736962696c69646164696e7465726573616e7465",
  "63726563696d69656e746f6e65636573696461646573737573637269626972736561736f6369616369c3b36e",
  "646973706f6e69626c65736576616c75616369c3b36e657374756469616e746573726573706f6e7361626c65",
  "7265736f6c756369c3b36e67756164616c616a6172617265676973747261646f736f706f7274756e69646164",
  "636f6d65726369616c6573666f746f67726166c3ad616175746f72696461646573696e67656e696572c3ad61",
  "74656c6576697369c3b36e636f6d706574656e6369616f7065726163696f6e657365737461626c656369646f",
  "73696d706c656d656e746561637475616c6d656e74656e61766567616369c3b36e636f6e666f726d69646164"]

def twelve : List String := [
  "6c696e652d6865696768743a666f6e742d66616d696c793a22203a2022687474703a2f2f",
  "6170706c69636174696f6e736c696e6b2220687265663d227370656369666963616c6c79",
  "2f2f3c215b43444154415b0a4f7267616e697a6174696f6e646973747269627574696f6e",
  "3070783b206865696768743a72656c6174696f6e736869706465766963652d7769647468",
  "3c64697620636c6173733d223c6c6162656c20666f723d22726567697374726174696f6e",
  "3c2f6e6f7363726970743e0a2f696e6465782e68746d6c2277696e646f772e6f70656e28",
  "2021696d706f7274616e743b6170706c69636174696f6e2f696e646570656e64656e6365",
  "2f2f7777772e676f6f676c656f7267616e697a6174696f6e6175746f636f6d706c657465",
  "726571756972656d656e7473636f6e7365727661746976653c666f726d206e616d653d22",
  "696e74656c6c65637475616c6d617267696e2d6c6566743a313874682063656e74757279",
  "616e20696d706f7274616e74696e737469747574696f6e73616262726576696174696f6e",
  "3c696d6720636c6173733d226f7267616e69736174696f6e636976696c697a6174696f6e",
  "313974682063656e74757279617263686974656374757265696e636f72706f7261746564",
  "323074682063656e747572792d636f6e7461696e6572223e6d6f7374206e6f7461626c79",
  "2f3e3c2f613e3c2f6469763e6e6f74696669636174696f6e27756e646566696e65642729",
  "467572746865726d6f72652c62656c696576652074686174696e6e657248544d4c203d20",
  "7072696f7220746f207468656472616d61746963616c6c79726566657272696e6720746f",
  "6e65676f74696174696f6e73686561647175617274657273536f75746820416672696361",
  "756e7375636365737366756c50656e6e73796c76616e69614173206120726573756c742c",
  "3c68746d6c206c616e673d22266c743b2f7375702667743b6465616c696e672077697468",
  "7068696c6164656c70686961686973746f726963616c6c79293b3c2f7363726970743e0a",
  "70616464696e672d746f703a6578706572696d656e74616c676574417474726962757465",
  "696e737472756374696f6e73746563686e6f6c6f6769657370617274206f662074686520",
  "3d66756e6374696f6e28297b737562736372697074696f6e6c2e647464223e0d0a3c6874",
  "67656f67726170686963616c436f6e737469747574696f6e272c2066756e6374696f6e28",
  "737570706f727465642062796167726963756c747572616c636f6e737472756374696f6e",
  "7075626c69636174696f6e73666f6e742d73697a653a2031612076617269657479206f66",
  "3c646976207374796c653d22456e6379636c6f7065646961696672616d65207372633d22",
  "64656d6f6e737472617465646163636f6d706c6973686564756e69766572736974696573",
  "44656d6f6772617068696373293b3c2f7363726970743e3c64656469636174656420746f",
  "6b6e6f776c65646765206f66736174697366616374696f6e706172746963756c61726c79",
  "3c2f6469763e3c2f6469763e456e676c6973682028555329617070656e644368696c6428",
  "7472616e736d697373696f6e732e20486f77657665722c20696e74656c6c6967656e6365",
  "2220746162696e6465783d22666c6f61743a72696768743b436f6d6d6f6e7765616c7468",
  "72616e67696e672066726f6d696e207768696368207468656174206c65617374206f6e65",
  "726570726f64756374696f6e656e6379636c6f70656469613b666f6e742d73697a653a31",
  "6a7572697364696374696f6e617420746861742074696d65223e3c6120636c6173733d22",
  "496e206164646974696f6e2c6465736372697074696f6e2b636f6e766572736174696f6e",
  "636f6e74616374207769746869732067656e6572616c6c79722220636f6e74656e743d22",
  "726570726573656e74696e67266c743b6d6174682667743b70726573656e746174696f6e",
  "6f63636173696f6e616c6c793c696d672077696474683d226e617669676174696f6e223e",
  "636f6d70656e736174696f6e6368616d70696f6e736869706d656469613d22616c6c2220",
  "76696f6c6174696f6e206f667265666572656e636520746f72657475726e20747275653b",
  "5374726963742f2f454e22207472616e73616374696f6e73696e74657276656e74696f6e",
  "766572696669636174696f6e496e666f726d6174696f6e20646966666963756c74696573",
  "4368616d70696f6e736869706361706162696c69746965733c215b656e6469665d2d2d3e",
  "7d0a3c2f7363726970743e0a43687269737469616e697479666f72206578616d706c652c",
  "50726f66657373696f6e616c7265737472696374696f6e73737567676573742074686174",
  "7761732072656c656173656428737563682061732074686572656d6f7665436c61737328",
  "756e656d706c6f796d656e7474686520416d65726963616e737472756374757265206f66",
  "2f696e6465782e68746d6c207075626c697368656420696e7370616e20636c6173733d22",
  "223e3c6120687265663d222f696e74726f64756374696f6e62656c6f6e67696e6720746f",
  "636c61696d65642074686174636f6e73657175656e6365733c6d657461206e616d653d22",
  "477569646520746f207468656f7665727768656c6d696e67616761696e73742074686520",
  "636f6e63656e7472617465642c0a2e6e6f6e746f756368206f62736572766174696f6e73",
  "3c2f613e0a3c2f6469763e0a662028646f63756d656e742e626f726465723a2031707820",
  "7b666f6e742d73697a653a3174726561746d656e74206f663022206865696768743d2231",
  "6d6f64696669636174696f6e496e646570656e64656e63656469766964656420696e746f",
  "67726561746572207468616e616368696576656d656e747365737461626c697368696e67",
  "4a61766153637269707422206e657665727468656c6573737369676e69666963616e6365",
  "42726f616463617374696e673e266e6273703b3c2f74643e636f6e7461696e6572223e0a",
  "737563682061732074686520696e666c75656e6365206f666120706172746963756c6172",
  "7372633d27687474703a2f2f6e617669676174696f6e222068616c66206f662074686520",
  "7375627374616e7469616c20266e6273703b3c2f6469763e616476616e74616765206f66",
  "646973636f76657279206f6666756e64616d656e74616c206d6574726f706f6c6974616e",
  "746865206f70706f736974652220786d6c3a6c616e673d2264656c696265726174656c79",
  "616c69676e3d63656e74657265766f6c7574696f6e206f66707265736572766174696f6e",
  "696d70726f76656d656e7473626567696e6e696e6720696e4a6573757320436872697374",
  "5075626c69636174696f6e7364697361677265656d656e74746578742d616c69676e3a72",
  "2c2066756e6374696f6e282973696d696c61726974696573626f64793e3c2f68746d6c3e",
  "69732063757272656e746c79616c7068616265746963616c697320736f6d6574696d6573",
  "747970653d22696d6167652f6d616e79206f662074686520666c6f773a68696464656e3b",
  "617661696c61626c6520696e6465736372696265207468656578697374656e6365206f66",
  "616c6c206f7665722074686574686520496e7465726e6574093c756c20636c6173733d22",
  "696e7374616c6c6174696f6e6e65696768626f72686f6f6461726d656420666f72636573",
  "7265647563696e6720746865636f6e74696e75657320746f4e6f6e657468656c6573732c",
  "74656d7065726174757265730a09093c6120687265663d22636c6f736520746f20746865",
  "6578616d706c6573206f662069732061626f757420746865287365652062656c6f77292e",
  "222069643d2273656172636870726f66657373696f6e616c697320617661696c61626c65",
  "746865206f6666696369616c09093c2f7363726970743e0a0a09093c6469762069643d22",
  "616363656c65726174696f6e7468726f756768207468652048616c6c206f662046616d65",
  "6465736372697074696f6e737472616e736c6174696f6e73696e746572666572656e6365",
  "20747970653d27746578742f726563656e74207965617273696e2074686520776f726c64",
  "7665727920706f70756c61727b6261636b67726f756e643a747261646974696f6e616c20",
  "736f6d65206f662074686520636f6e6e656374656420746f6578706c6f69746174696f6e",
  "656d657267656e6365206f66636f6e737469747574696f6e4120486973746f7279206f66",
  "7369676e69666963616e74206d616e7566616374757265646578706563746174696f6e73",
  "3e3c6e6f7363726970743e3c63616e20626520666f756e64626563617573652074686520",
  "686173206e6f74206265656e6e65696768626f7572696e67776974686f75742074686520",
  "616464656420746f20746865093c6c6920636c6173733d22696e737472756d656e74616c",
  "536f7669657420556e696f6e61636b6e6f776c656467656477686963682063616e206265",
  "6e616d6520666f7220746865617474656e74696f6e20746f617474656d70747320746f20",
  "646576656c6f706d656e7473496e20666163742c207468653c6c6920636c6173733d2261",
  "696d706c69636174696f6e737375697461626c6520666f726d756368206f662074686520",
  "636f6c6f6e697a6174696f6e707265736964656e7469616c63616e63656c427562626c65",
  "20496e666f726d6174696f6e6d6f7374206f662074686520697320646573637269626564",
  "72657374206f6620746865206d6f7265206f72206c657373696e2053657074656d626572",
  "496e74656c6c6967656e63657372633d22687474703a2f2f70783b206865696768743a20",
  "617661696c61626c6520746f6d616e75666163747572657268756d616e20726967687473",
  "6c696e6b20687265663d222f617661696c6162696c69747970726f706f7274696f6e616c",
  "6f7574736964652074686520617374726f6e6f6d6963616c68756d616e206265696e6773",
  "6e616d65206f66207468652061726520666f756e6420696e617265206261736564206f6e",
  "736d616c6c6572207468616e6120706572736f6e2077686f657870616e73696f6e206f66",
  "61726775696e6720746861746e6f77206b6e6f776e206173496e20746865206561726c79",
  "696e7465726d656469617465646572697665642066726f6d5363616e64696e617669616e",
  "3c2f613e3c2f6469763e0d0a636f6e736964657220746865616e20657374696d61746564",
  "746865204e6174696f6e616c3c6469762069643d22706167726573756c74696e6720696e",
  "636f6d6d697373696f6e6564616e616c6f676f757320746f617265207265717569726564",
  "2f756c3e0a3c2f6469763e0a776173206261736564206f6e616e6420626563616d652061",
  "266e6273703b266e6273703b74222076616c75653d222220776173206361707475726564",
  "6e6f206d6f7265207468616e726573706563746976656c79636f6e74696e756520746f20",
  "3e0d0a3c686561643e0d0a3c7765726520637265617465646d6f72652067656e6572616c",
  "696e666f726d6174696f6e207573656420666f7220746865696e646570656e64656e7420",
  "74686520496d70657269616c636f6d706f6e656e74206f66746f20746865206e6f727468",
  "696e636c7564652074686520436f6e737472756374696f6e73696465206f662074686520",
  "776f756c64206e6f74206265666f7220696e7374616e6365696e76656e74696f6e206f66",
  "6d6f726520636f6d706c6578636f6c6c6563746976656c796261636b67726f756e643a20",
  "746578742d616c69676e3a20697473206f726967696e616c696e746f206163636f756e74",
  "746869732070726f63657373616e20657874656e73697665686f77657665722c20746865",
  "7468657920617265206e6f7472656a65637465642074686563726974696369736d206f66",
  "647572696e6720776869636870726f6261626c7920746865746869732061727469636c65",
  "2866756e6374696f6e28297b49742073686f756c64206265616e2061677265656d656e74",
  "6163636964656e74616c6c79646966666572732066726f6d417263686974656374757265",
  "626574746572206b6e6f776e617272616e67656d656e7473696e666c75656e6365206f6e",
  "617474656e646564207468656964656e746963616c20746f736f757468206f6620746865",
  "70617373207468726f756768786d6c22207469746c653d227765696768743a626f6c643b",
  "6372656174696e6720746865646973706c61793a6e6f6e657265706c6163656420746865",
  "3c696d67207372633d222f6968747470733a2f2f7777772e576f726c6420576172204949",
  "74657374696d6f6e69616c73666f756e6420696e20746865726571756972656420746f20",
  "616e642074686174207468656265747765656e20746865207761732064657369676e6564",
  "636f6e7369737473206f6620636f6e736964657261626c797075626c6973686564206279",
  "746865206c616e6775616765436f6e736572766174696f6e636f6e736973746564206f66",
  "726566657220746f207468656261636b20746f207468652063737322206d656469613d22",
  "50656f706c652066726f6d20617661696c61626c65206f6e70726f76656420746f206265",
  "73756767657374696f6e7322776173206b6e6f776e206173766172696574696573206f66",
  "6c696b656c7920746f206265636f6d707269736564206f66737570706f72742074686520",
  "68616e6473206f6620746865636f75706c65642077697468636f6e6e65637420616e6420",
  "626f726465723a6e6f6e653b706572666f726d616e6365736265666f7265206265696e67",
  "6c6174657220626563616d6563616c63756c6174696f6e736f6674656e2063616c6c6564",
  "7265736964656e7473206f666d65616e696e6720746861743e3c6c6920636c6173733d22",
  "65766964656e636520666f726578706c616e6174696f6e73656e7669726f6e6d656e7473",
  "223e3c2f613e3c2f6469763e776869636820616c6c6f7773496e74726f64756374696f6e",
  "646576656c6f7065642062796120776964652072616e67656f6e20626568616c66206f66",
  "76616c69676e3d22746f70227072696e6369706c65206f666174207468652074696d652c",
  "3c2f6e6f7363726970743e0d7361696420746f2068617665696e20746865206669727374",
  "7768696c65206f74686572736879706f746865746963616c7068696c6f736f7068657273",
  "706f776572206f6620746865636f6e7461696e656420696e706572666f726d6564206279",
  "696e6162696c69747920746f77657265207772697474656e7370616e207374796c653d22",
  "696e707574206e616d653d22746865207175657374696f6e696e74656e64656420666f72",
  "72656a656374696f6e206f66696d706c6965732074686174696e76656e74656420746865",
  "746865207374616e646172647761732070726f6261626c796c696e6b206265747765656e",
  "70726f666573736f72206f66696e746572616374696f6e736368616e67696e6720746865",
  "496e6469616e204f6365616e20636c6173733d226c617374776f726b696e672077697468",
  "27687474703a2f2f7777772e7965617273206265666f7265546869732077617320746865",
  "72656372656174696f6e616c656e746572696e67207468656d6561737572656d656e7473",
  "616e2065787472656d656c7976616c7565206f66207468657374617274206f6620746865",
  "0a3c2f7363726970743e0a0a616e206566666f727420746f696e63726561736520746865",
  "746f2074686520736f75746873706163696e673d2230223e73756666696369656e746c79",
  "746865204575726f7065616e636f6e76657274656420746f636c65617254696d656f7574",
  "646964206e6f742068617665636f6e73657175656e746c79666f7220746865206e657874",
  "657874656e73696f6e206f6665636f6e6f6d696320616e64616c74686f75676820746865",
  "6172652070726f6475636564616e64207769746820746865696e73756666696369656e74",
  "676976656e2062792074686573746174696e672074686174657870656e64697475726573",
  "3c2f7370616e3e3c2f613e0a74686f7567687420746861746f6e20746865206261736973",
  "63656c6c70616464696e673d696d616765206f662074686572657475726e696e6720746f",
  "696e666f726d6174696f6e2c736570617261746564206279617373617373696e61746564",
  "732220636f6e74656e743d22617574686f72697479206f666e6f7274687765737465726e",
  "3c2f6469763e0a3c64697620223e3c2f6469763e0d0a2020636f6e73756c746174696f6e",
  "636f6d6d756e697479206f66746865206e6174696f6e616c69742073686f756c64206265",
  "7061727469636970616e747320616c69676e3d226c656674746865206772656174657374",
  "73656c656374696f6e206f6673757065726e61747572616c646570656e64656e74206f6e",
  "6973206d656e74696f6e6564616c6c6f77696e672074686577617320696e76656e746564",
  "6163636f6d70616e79696e6768697320706572736f6e616c617661696c61626c65206174",
  "7374756479206f66207468656f6e20746865206f74686572657865637574696f6e206f66",
  "48756d616e205269676874737465726d73206f66207468656173736f63696174696f6e73",
  "726573656172636820616e64737563636565646564206279646566656174656420746865",
  "616e642066726f6d20746865627574207468657920617265636f6d6d616e646572206f66",
  "7374617465206f66207468657965617273206f6620616765746865207374756479206f66",
  "3c756c20636c6173733d2273706c61636520696e20746865776865726520686520776173",
  "3c6c6920636c6173733d2266746865726520617265206e6f776869636820626563616d65",
  "6865207075626c697368656465787072657373656420696e746f20776869636820746865",
  "636f6d6d697373696f6e6572666f6e742d7765696768743a7465727269746f7279206f66",
  "657874656e73696f6e73223e526f6d616e20456d70697265657175616c20746f20746865",
  "496e20636f6e74726173742c686f77657665722c20616e646973207479706963616c6c79",
  "616e6420686973207769666528616c736f2063616c6c65643e3c756c20636c6173733d22",
  "6566666563746976656c792065766f6c76656420696e746f7365656d20746f2068617665",
  "776869636820697320746865746865726520776173206e6f616e20657863656c6c656e74",
  "616c6c206f66207468657365646573637269626564206279496e2070726163746963652c",
  "62726f616463617374696e676368617267656420776974687265666c656374656420696e",
  "7375626a656374656420746f6d696c697461727920616e64746f2074686520706f696e74",
  "65636f6e6f6d6963616c6c79736574546172676574696e676172652061637475616c6c79",
  "766963746f7279206f76657228293b3c2f7363726970743e636f6e74696e756f75736c79",
  "726571756972656420666f7265766f6c7574696f6e617279616e20656666656374697665",
  "6e6f727468206f66207468652c207768696368207761732066726f6e74206f6620746865",
  "6f72206f7468657277697365736f6d6520666f726d206f66686164206e6f74206265656e",
  "67656e657261746564206279696e666f726d6174696f6e2e7065726d697474656420746f",
  "696e636c7564657320746865646576656c6f706d656e742c656e746572656420696e746f",
  "7468652070726576696f7573636f6e73697374656e746c79617265206b6e6f776e206173",
  "746865206669656c64206f66746869732074797065206f66676976656e20746f20746865",
  "746865207469746c65206f66636f6e7461696e7320746865696e7374616e636573206f66",
  "696e20746865206e6f72746864756520746f2074686569726172652064657369676e6564",
  "636f72706f726174696f6e737761732074686174207468656f6e65206f66207468657365",
  "6d6f726520706f70756c617273756363656564656420696e737570706f72742066726f6d",
  "696e20646966666572656e74646f6d696e6174656420627964657369676e656420666f72",
  "6f776e657273686970206f66616e6420706f737369626c797374616e64617264697a6564",
  "726573706f6e73655465787477617320696e74656e646564726563656976656420746865",
  "617373756d656420746861746172656173206f66207468657072696d6172696c7920696e",
  "746865206261736973206f66696e207468652073656e73656163636f756e747320666f72",
  "64657374726f7965642062796174206c656173742074776f776173206465636c61726564",
  "636f756c64206e6f74206265536563726574617279206f6661707065617220746f206265",
  "6d617267696e2d746f703a312f5e5c732b7c5c732b242f6765297b7468726f7720657d3b",
  "746865207374617274206f6674776f2073657061726174656c616e677561676520616e64",
  "77686f20686164206265656e6f7065726174696f6e206f666465617468206f6620746865",
  "7265616c206e756d62657273093c6c696e6b2072656c3d2270726f766964656420746865",
  "7468652073746f7279206f66636f6d7065746974696f6e73656e676c6973682028554b29",
  "656e676c6973682028555329d09cd0bed0bdd0b3d0bed0bbd0a1d180d0bfd181d0bad0b8",
  "d181d180d0bfd181d0bad0b8d181d180d0bfd181d0bad0bed984d8b9d8b1d8a8d98ad8a9",
  "e6ada3e9ab94e4b8ade69687e7ae80e4bd93e4b8ade69687e7b981e4bd93e4b8ade69687",
  "e69c89e99990e585ace58fb8e4babae6b091e694bfe5ba9ce998bfe9878ce5b7b4e5b7b4",
  "e7a4bee4bc9ae4b8bbe4b989e6938de4bd9ce7b3bbe7bb9fe694bfe7ad96e6b395e8a784",
  "696e666f726d616369c3b36e68657272616d69656e746173656c65637472c3b36e69636f",
  "646573637269706369c3b36e636c61736966696361646f73636f6e6f63696d69656e746f",
  "7075626c6963616369c3b36e72656c6163696f6e61646173696e666f726dc3a174696361",
  "72656c6163696f6e61646f73646570617274616d656e746f74726162616a61646f726573",
  "646972656374616d656e74656179756e74616d69656e746f6d65726361646f4c69627265",
  "636f6e74c3a16374656e6f7368616269746163696f6e657363756d706c696d69656e746f",
  "72657374617572616e746573646973706f73696369c3b36e636f6e73656375656e636961",
  "656c65637472c3b36e69636161706c69636163696f6e6573646573636f6e65637461646f",
  "696e7374616c616369c3b36e7265616c697a616369c3b36e7574696c697a616369c3b36e",
  "656e6369636c6f7065646961656e6665726d656461646573696e737472756d656e746f73",
  "657870657269656e63696173696e73746974756369c3b36e706172746963756c61726573",
  "73756263617465676f726961d182d0bed0bbd18cd0bad0bed0a0d0bed181d181d0b8d0b8",
  "d180d0b0d0b1d0bed182d18bd0b1d0bed0bbd18cd188d0b5d0bfd180d0bed181d182d0be",
  "d0bcd0bed0b6d0b5d182d0b5d0b4d180d183d0b3d0b8d185d181d0bbd183d187d0b0d0b5",
  "d181d0b5d0b9d187d0b0d181d0b2d181d0b5d0b3d0b4d0b0d0a0d0bed181d181d0b8d18f",
  "d09cd0bed181d0bad0b2d0b5d0b4d180d183d0b3d0b8d0b5d0b3d0bed180d0bed0b4d0b0",
  "d0b2d0bed0bfd180d0bed181d0b4d0b0d0bdd0bdd18bd185d0b4d0bed0bbd0b6d0bdd18b",
  "d0b8d0bcd0b5d0bdd0bdd0bed09cd0bed181d0bad0b2d18bd180d183d0b1d0bbd0b5d0b9",
  "d09cd0bed181d0bad0b2d0b0d181d182d180d0b0d0bdd18bd0bdd0b8d187d0b5d0b3d0be",
  "d180d0b0d0b1d0bed182d0b5d0b4d0bed0bbd0b6d0b5d0bdd183d181d0bbd183d0b3d0b8",
  "d182d0b5d0bfd0b5d180d18cd09ed0b4d0bdd0b0d0bad0bed0bfd0bed182d0bed0bcd183",
  "d180d0b0d0b1d0bed182d183d0b0d0bfd180d0b5d0bbd18fd0b2d0bed0bed0b1d189d0b5",
  "d0bed0b4d0bdd0bed0b3d0bed181d0b2d0bed0b5d0b3d0bed181d182d0b0d182d18cd0b8",
  "d0b4d180d183d0b3d0bed0b9d184d0bed180d183d0bcd0b5d185d0bed180d0bed188d0be",
  "d0bfd180d0bed182d0b8d0b2d181d181d18bd0bbd0bad0b0d0bad0b0d0b6d0b4d18bd0b9",
  "d0b2d0bbd0b0d181d182d0b8d0b3d180d183d0bfd0bfd18bd0b2d0bcd0b5d181d182d0b5",
  "d180d0b0d0b1d0bed182d0b0d181d0bad0b0d0b7d0b0d0bbd0bfd0b5d180d0b2d18bd0b9",
  "d0b4d0b5d0bbd0b0d182d18cd0b4d0b5d0bdd18cd0b3d0b8d0bfd0b5d180d0b8d0bed0b4",
  "d0b1d0b8d0b7d0bdd0b5d181d0bed181d0bdd0bed0b2d0b5d0bcd0bed0bcd0b5d0bdd182",
  "d0bad183d0bfd0b8d182d18cd0b4d0bed0bbd0b6d0bdd0b0d180d0b0d0bcd0bad0b0d185",
  "d0bdd0b0d187d0b0d0bbd0bed0a0d0b0d0b1d0bed182d0b0d0a2d0bed0bbd18cd0bad0be",
  "d181d0bed0b2d181d0b5d0bcd0b2d182d0bed180d0bed0b9d0bdd0b0d187d0b0d0bbd0b0",
  "d181d0bfd0b8d181d0bed0bad181d0bbd183d0b6d0b1d18bd181d0b8d181d182d0b5d0bc",
  "d0bfd0b5d187d0b0d182d0b8d0bdd0bed0b2d0bed0b3d0bed0bfd0bed0bcd0bed189d0b8",
  "d181d0b0d0b9d182d0bed0b2d0bfd0bed187d0b5d0bcd183d0bfd0bed0bcd0bed189d18c",
  "d0b4d0bed0bbd0b6d0bdd0bed181d181d18bd0bbd0bad0b8d0b1d18bd181d182d180d0be",
  "d0b4d0b0d0bdd0bdd18bd0b5d0bcd0bdd0bed0b3d0b8d0b5d0bfd180d0bed0b5d0bad182",
  "d0a1d0b5d0b9d187d0b0d181d0bcd0bed0b4d0b5d0bbd0b8d182d0b0d0bad0bed0b3d0be",
  "d0bed0bdd0bbd0b0d0b9d0bdd0b3d0bed180d0bed0b4d0b5d0b2d0b5d180d181d0b8d18f",
  "d181d182d180d0b0d0bdd0b5d184d0b8d0bbd18cd0bcd18bd183d180d0bed0b2d0bdd18f",
  "d180d0b0d0b7d0bdd18bd185d0b8d181d0bad0b0d182d18cd0bdd0b5d0b4d0b5d0bbd18e",
  "d18fd0bdd0b2d0b0d180d18fd0bcd0b5d0bdd18cd188d0b5d0bcd0bdd0bed0b3d0b8d185",
  "d0b4d0b0d0bdd0bdd0bed0b9d0b7d0bdd0b0d187d0b8d182d0bdd0b5d0bbd18cd0b7d18f",
  "d184d0bed180d183d0bcd0b0d0a2d0b5d0bfd0b5d180d18cd0bcd0b5d181d18fd186d0b0",
  "d0b7d0b0d189d0b8d182d18bd09bd183d187d188d0b8d0b5e0a4a8e0a4b9e0a580e0a482",
  "e0a495e0a4b0e0a4a8e0a587e0a485e0a4aae0a4a8e0a587e0a495e0a4bfe0a4afe0a4be",
  "e0a495e0a4b0e0a587e0a482e0a485e0a4a8e0a58de0a4afe0a495e0a58de0a4afe0a4be",
  "e0a497e0a4bee0a487e0a4a1e0a4ace0a4bee0a4b0e0a587e0a495e0a4bfe0a4b8e0a580",
  "e0a4a6e0a4bfe0a4afe0a4bee0a4aae0a4b9e0a4b2e0a587e0a4b8e0a4bfe0a482e0a4b9",
  "e0a4ade0a4bee0a4b0e0a4a4e0a485e0a4aae0a4a8e0a580e0a4b5e0a4bee0a4b2e0a587",
  "e0a4b8e0a587e0a4b5e0a4bee0a495e0a4b0e0a4a4e0a587e0a4aee0a587e0a4b0e0a587",
  "e0a4b9e0a58be0a4a8e0a587e0a4b8e0a495e0a4a4e0a587e0a4ace0a4b9e0a581e0a4a4",
  "e0a4b8e0a4bee0a487e0a49fe0a4b9e0a58be0a497e0a4bee0a49ce0a4bee0a4a8e0a587",
  "e0a4aee0a4bfe0a4a8e0a49fe0a495e0a4b0e0a4a4e0a4bee0a495e0a4b0e0a4a8e0a4be",
  "e0a489e0a4a8e0a495e0a587e0a4afe0a4b9e0a4bee0a481e0a4b8e0a4ace0a4b8e0a587",
  "e0a4ade0a4bee0a4b7e0a4bee0a486e0a4aae0a495e0a587e0a4b2e0a4bfe0a4afe0a587",
  "e0a4b6e0a581e0a4b0e0a582e0a487e0a4b8e0a495e0a587e0a498e0a482e0a49fe0a587",
  "e0a4aee0a587e0a4b0e0a580e0a4b8e0a495e0a4a4e0a4bee0a4aee0a587e0a4b0e0a4be",
  "e0a4b2e0a587e0a495e0a4b0e0a485e0a4a7e0a4bfe0a495e0a485e0a4aae0a4a8e0a4be",
  "e0a4b8e0a4aee0a4bee0a49ce0a4aee0a581e0a49de0a587e0a495e0a4bee0a4b0e0a4a3",
  "e0a4b9e0a58be0a4a4e0a4bee0a495e0a4a1e0a4bce0a580e0a4afe0a4b9e0a4bee0a482",
  "e0a4b9e0a58be0a49fe0a4b2e0a4b6e0a4ace0a58de0a4a6e0a4b2e0a4bfe0a4afe0a4be",
  "e0a49ce0a580e0a4b5e0a4a8e0a49ce0a4bee0a4a4e0a4bee0a495e0a588e0a4b8e0a587",
  "e0a486e0a4aae0a495e0a4bee0a4b5e0a4bee0a4b2e0a580e0a4a6e0a587e0a4a8e0a587",
  "e0a4aae0a582e0a4b0e0a580e0a4aae0a4bee0a4a8e0a580e0a489e0a4b8e0a495e0a587",
  "e0a4b9e0a58be0a497e0a580e0a4ace0a588e0a4a0e0a495e0a486e0a4aae0a495e0a580",
  "e0a4b5e0a4b0e0a58de0a4b7e0a497e0a4bee0a482e0a4b5e0a486e0a4aae0a495e0a58b",
  "e0a49ce0a4bfe0a4b2e0a4bee0a49ce0a4bee0a4a8e0a4bee0a4b8e0a4b9e0a4aee0a4a4",
  "e0a4b9e0a4aee0a587e0a482e0a489e0a4a8e0a495e0a580e0a4afe0a4bee0a4b9e0a582",
  "e0a4a6e0a4b0e0a58de0a49ce0a4b8e0a582e0a49ae0a580e0a4aae0a4b8e0a482e0a4a6",
  "e0a4b8e0a4b5e0a4bee0a4b2e0a4b9e0a58be0a4a8e0a4bee0a4b9e0a58be0a4a4e0a580",
  "e0a49ce0a588e0a4b8e0a587e0a4b5e0a4bee0a4aae0a4b8e0a49ce0a4a8e0a4a4e0a4be",
  "e0a4a8e0a587e0a4a4e0a4bee0a49ce0a4bee0a4b0e0a580e0a498e0a4bee0a4afe0a4b2",
  "e0a49ce0a4bfe0a4b2e0a587e0a4a8e0a580e0a49ae0a587e0a49ce0a4bee0a482e0a49a",
  "e0a4aae0a4a4e0a58de0a4b0e0a497e0a582e0a497e0a4b2e0a49ce0a4bee0a4a4e0a587",
  "e0a4ace0a4bee0a4b9e0a4b0e0a486e0a4aae0a4a8e0a587e0a4b5e0a4bee0a4b9e0a4a8",
  "e0a487e0a4b8e0a495e0a4bee0a4b8e0a581e0a4ace0a4b9e0a4b0e0a4b9e0a4a8e0a587",
  "e0a487e0a4b8e0a4b8e0a587e0a4b8e0a4b9e0a4bfe0a4a4e0a4ace0a4a1e0a4bce0a587",
  "e0a498e0a49fe0a4a8e0a4bee0a4a4e0a4b2e0a4bee0a4b6e0a4aae0a4bee0a482e0a49a",
  "e0a4b6e0a58de0a4b0e0a580e0a4ace0a4a1e0a4bce0a580e0a4b9e0a58be0a4a4e0a587",
  "e0a4b8e0a4bee0a488e0a49fe0a4b6e0a4bee0a4afe0a4a6e0a4b8e0a495e0a4a4e0a580",
  "e0a49ce0a4bee0a4a4e0a580e0a4b5e0a4bee0a4b2e0a4bee0a4b9e0a49ce0a4bee0a4b0",
  "e0a4aae0a49fe0a4a8e0a4bee0a4b0e0a496e0a4a8e0a587e0a4b8e0a4a1e0a4bce0a495",
  "e0a4aee0a4bfe0a4b2e0a4bee0a489e0a4b8e0a495e0a580e0a495e0a587e0a4b5e0a4b2",
  "e0a4b2e0a497e0a4a4e0a4bee0a496e0a4bee0a4a8e0a4bee0a485e0a4b0e0a58de0a4a5",
  "e0a49ce0a4b9e0a4bee0a482e0a4a6e0a587e0a496e0a4bee0a4aae0a4b9e0a4b2e0a580",
  "e0a4a8e0a4bfe0a4afe0a4aee0a4ace0a4bfe0a4a8e0a4bee0a4ace0a588e0a482e0a495",
  "e0a495e0a4b9e0a580e0a482e0a495e0a4b9e0a4a8e0a4bee0a4a6e0a587e0a4a4e0a4be",
  "e0a4b9e0a4aee0a4b2e0a587e0a495e0a4bee0a4abe0a580e0a49ce0a4ace0a495e0a4bf",
  "e0a4a4e0a581e0a4b0e0a4a4e0a4aee0a4bee0a482e0a497e0a4b5e0a4b9e0a580e0a482",
  "e0a4b0e0a58be0a49ce0a4bce0a4aee0a4bfe0a4b2e0a580e0a486e0a4b0e0a58be0a4aa",
  "e0a4b8e0a587e0a4a8e0a4bee0a4afe0a4bee0a4a6e0a4b5e0a4b2e0a587e0a4a8e0a587",
  "e0a496e0a4bee0a4a4e0a4bee0a495e0a4b0e0a580e0a4ace0a489e0a4a8e0a495e0a4be",
  "e0a49ce0a4b5e0a4bee0a4ace0a4aae0a582e0a4b0e0a4bee0a4ace0a4a1e0a4bce0a4be",
  "e0a4b8e0a58ce0a4a6e0a4bee0a4b6e0a587e0a4afe0a4b0e0a495e0a4bfe0a4afe0a587",
  "e0a495e0a4b9e0a4bee0a482e0a485e0a495e0a4b8e0a4b0e0a4ace0a4a8e0a4bee0a48f",
  "e0a4b5e0a4b9e0a4bee0a482e0a4b8e0a58de0a4a5e0a4b2e0a4aee0a4bfe0a4b2e0a587",
  "e0a4b2e0a587e0a496e0a495e0a4b5e0a4bfe0a4b7e0a4afe0a495e0a58de0a4b0e0a482",
  "e0a4b8e0a4aee0a582e0a4b9e0a4a5e0a4bee0a4a8e0a4bed8aad8b3d8aad8b7d98ad8b9",
  "d985d8b4d8a7d8b1d983d8a9d8a8d988d8a7d8b3d8b7d8a9d8a7d984d8b5d981d8add8a9",
  "d985d988d8a7d8b6d98ad8b9d8a7d984d8aed8a7d8b5d8a9d8a7d984d985d8b2d98ad8af",
  "d8a7d984d8b9d8a7d985d8a9d8a7d984d983d8a7d8aad8a8d8a7d984d8b1d8afd988d8af",
  "d8a8d8b1d986d8a7d985d8acd8a7d984d8afd988d984d8a9d8a7d984d8b9d8a7d984d985",
  "d8a7d984d985d988d982d8b9d8a7d984d8b9d8b1d8a8d98ad8a7d984d8b3d8b1d98ad8b9",
  "d8a7d984d8acd988d8a7d984d8a7d984d8b0d987d8a7d8a8d8a7d984d8add98ad8a7d8a9",
  "d8a7d984d8add982d988d982d8a7d984d983d8b1d98ad985d8a7d984d8b9d8b1d8a7d982",
  "d985d8add981d988d8b8d8a9d8a7d984d8abd8a7d986d98ad985d8b4d8a7d987d8afd8a9",
  "d8a7d984d985d8b1d8a3d8a9d8a7d984d982d8b1d8a2d986d8a7d984d8b4d8a8d8a7d8a8",
  "d8a7d984d8add988d8a7d8b1d8a7d984d8acd8afd98ad8afd8a7d984d8a3d8b3d8b1d8a9",
  "d8a7d984d8b9d984d988d985d985d8acd985d988d8b9d8a9d8a7d984d8b1d8add985d986",
  "d8a7d984d986d982d8a7d8b7d981d984d8b3d8b7d98ad986d8a7d984d983d988d98ad8aa",
  "d8a7d984d8afd986d98ad8a7d8a8d8b1d983d8a7d8aad987d8a7d984d8b1d98ad8a7d8b6",
  "d8aad8add98ad8a7d8aad98ad8a8d8aad988d982d98ad8aad8a7d984d8a3d988d984d989",
  "d8a7d984d8a8d8b1d98ad8afd8a7d984d983d984d8a7d985d8a7d984d8b1d8a7d8a8d8b7",
  "d8a7d984d8b4d8aed8b5d98ad8b3d98ad8a7d8b1d8a7d8aad8a7d984d8abd8a7d984d8ab",
  "d8a7d984d8b5d984d8a7d8a9d8a7d984d8add8afd98ad8abd8a7d984d8b2d988d8a7d8b1",
  "d8a7d984d8aed984d98ad8acd8a7d984d8acd985d98ad8b9d8a7d984d8b9d8a7d985d987",
  "d8a7d984d8acd985d8a7d984d8a7d984d8b3d8a7d8b9d8a9d985d8b4d8a7d987d8afd987",
  "d8a7d984d8b1d8a6d98ad8b3d8a7d984d8afd8aed988d984d8a7d984d981d986d98ad8a9",
  "d8a7d984d983d8aad8a7d8a8d8a7d984d8afd988d8b1d98ad8a7d984d8afd8b1d988d8b3",
  "d8a7d8b3d8aad8bad8b1d982d8aad8b5d8a7d985d98ad985d8a7d984d8a8d986d8a7d8aa",
  "d8a7d984d8b9d8b8d98ad985"]

def thirteen : List String := [
  "656e7465727461696e6d656e74756e6465727374616e64696e67203d2066756e6374696f6e2829",
  "2e6a7067222077696474683d22636f6e66696775726174696f6e2e706e67222077696474683d22",
  "3c626f647920636c6173733d224d6174682e72616e646f6d2829636f6e74656d706f7261727920",
  "556e697465642053746174657363697263756d7374616e6365732e617070656e644368696c6428",
  "6f7267616e697a6174696f6e733c7370616e20636c6173733d22223e3c696d67207372633d222f",
  "64697374696e6775697368656474686f7573616e6473206f6620636f6d6d756e69636174696f6e",
  "636c656172223e3c2f6469763e696e7665737469676174696f6e66617669636f6e2e69636f2220",
  "6d617267696e2d72696768743a6261736564206f6e20746865204d617373616368757365747473",
  "7461626c6520626f726465723d696e7465726e6174696f6e616c616c736f206b6e6f776e206173",
  "70726f6e756e63696174696f6e6261636b67726f756e643a236670616464696e672d6c6566743a",
  "466f72206578616d706c652c206d697363656c6c616e656f7573266c743b2f6d6174682667743b",
  "70737963686f6c6f676963616c696e20706172746963756c617265617263682220747970653d22",
  "666f726d206d6574686f643d226173206f70706f73656420746f53757072656d6520436f757274",
  "6f63636173696f6e616c6c79204164646974696f6e616c6c792c4e6f72746820416d6572696361",
  "70783b6261636b67726f756e646f70706f7274756e6974696573456e7465727461696e6d656e74",
  "2e746f4c6f77657243617365286d616e75666163747572696e6770726f66657373696f6e616c20",
  "636f6d62696e65642077697468466f7220696e7374616e63652c636f6e73697374696e67206f66",
  "22206d61786c656e6774683d2272657475726e2066616c73653b636f6e7363696f75736e657373",
  "4d65646974657272616e65616e65787472616f7264696e617279617373617373696e6174696f6e",
  "73756273657175656e746c7920627574746f6e20747970653d22746865206e756d626572206f66",
  "746865206f726967696e616c20636f6d70726568656e7369766572656665727320746f20746865",
  "3c2f756c3e0a3c2f6469763e0a7068696c6f736f70686963616c6c6f636174696f6e2e68726566",
  "776173207075626c697368656453616e204672616e636973636f2866756e6374696f6e28297b0a",
  "3c6469762069643d226d61696e736f70686973746963617465646d617468656d61746963616c20",
  "2f686561643e0d0a3c626f647973756767657374732074686174646f63756d656e746174696f6e",
  "636f6e63656e74726174696f6e72656c6174696f6e73686970736d61792068617665206265656e",
  "28666f72206578616d706c652c546869732061727469636c6520696e20736f6d65206361736573",
  "7061727473206f662074686520646566696e6974696f6e206f664772656174204272697461696e",
  "2063656c6c70616464696e673d6571756976616c656e7420746f706c616365686f6c6465723d22",
  "3b20666f6e742d73697a653a206a757374696669636174696f6e62656c69657665642074686174",
  "73756666657265642066726f6d617474656d7074656420746f206c6561646572206f6620746865",
  "637269707422207372633d222f2866756e6374696f6e2829207b61726520617661696c61626c65",
  "0a093c6c696e6b2072656c3d22207372633d27687474703a2f2f696e746572657374656420696e",
  "636f6e76656e74696f6e616c202220616c743d2222202f3e3c2f6172652067656e6572616c6c79",
  "68617320616c736f206265656e6d6f737420706f70756c617220636f72726573706f6e64696e67",
  "6372656469746564207769746874796c653d22626f726465723a3c2f613e3c2f7370616e3e3c2f",
  "2e676966222077696474683d223c696672616d65207372633d227461626c6520636c6173733d22",
  "696e6c696e652d626c6f636b3b6163636f7264696e6720746f20746f6765746865722077697468",
  "617070726f78696d6174656c797061726c69616d656e746172796d6f726520616e64206d6f7265",
  "646973706c61793a6e6f6e653b747261646974696f6e616c6c79707265646f6d696e616e746c79",
  "266e6273703b7c266e6273703b266e6273703b3c2f7370616e3e2063656c6c73706163696e673d",
  "3c696e707574206e616d653d226f722220636f6e74656e743d22636f6e74726f7665727369616c",
  "70726f70657274793d226f673a2f782d73686f636b776176652d64656d6f6e7374726174696f6e",
  "737572726f756e6465642062794e657665727468656c6573732c77617320746865206669727374",
  "636f6e736964657261626c6520416c74686f7567682074686520636f6c6c61626f726174696f6e",
  "73686f756c64206e6f7420626570726f706f7274696f6e206f663c7370616e207374796c653d22",
  "6b6e6f776e206173207468652073686f72746c79206166746572666f7220696e7374616e63652c",
  "646573637269626564206173202f686561643e0a3c626f6479207374617274696e672077697468",
  "696e6372656173696e676c79207468652066616374207468617464697363757373696f6e206f66",
  "6d6964646c65206f6620746865616e20696e646976696475616c646966666963756c7420746f20",
  "706f696e74206f662076696577686f6d6f73657875616c697479616363657074616e6365206f66",
  "3c2f7370616e3e3c2f6469763e6d616e756661637475726572736f726967696e206f6620746865",
  "636f6d6d6f6e6c792075736564696d706f7274616e6365206f6664656e6f6d696e6174696f6e73",
  "6261636b67726f756e643a20236c656e677468206f662074686564657465726d696e6174696f6e",
  "61207369676e69666963616e742220626f726465723d2230223e7265766f6c7574696f6e617279",
  "7072696e6369706c6573206f66697320636f6e7369646572656477617320646576656c6f706564",
  "496e646f2d4575726f7065616e76756c6e657261626c6520746f70726f706f6e656e7473206f66",
  "61726520736f6d6574696d6573636c6f73657220746f207468654e657720596f726b2043697479",
  "206e616d653d227365617263686174747269627574656420746f636f75727365206f6620746865",
  "6d617468656d6174696369616e62792074686520656e64206f6661742074686520656e64206f66",
  "2220626f726465723d22302220746563686e6f6c6f676963616c2e72656d6f7665436c61737328",
  "6272616e6368206f662074686565766964656e63652074686174215b656e6469665d2d2d3e0d0a",
  "496e73746974757465206f6620696e746f20612073696e676c65726573706563746976656c792e",
  "616e64207468657265666f726570726f70657274696573206f666973206c6f636174656420696e",
  "736f6d65206f66207768696368546865726520697320616c736f636f6e74696e75656420746f20",
  "617070656172616e6365206f662026616d703b6e646173683b2064657363726962657320746865",
  "636f6e73696465726174696f6e617574686f72206f6620746865696e646570656e64656e746c79",
  "65717569707065642077697468646f6573206e6f7420686176653c2f613e3c6120687265663d22",
  "636f6e667573656420776974683c6c696e6b20687265663d222f61742074686520616765206f66",
  "61707065617220696e20746865546865736520696e636c7564657265676172646c657373206f66",
  "636f756c642062652075736564207374796c653d2671756f743b7365766572616c2074696d6573",
  "726570726573656e7420746865626f64793e0a3c2f68746d6c3e74686f7567687420746f206265",
  "706f70756c6174696f6e206f66706f73736962696c697469657370657263656e74616765206f66",
  "61636365737320746f20746865616e20617474656d707420746f70726f64756374696f6e206f66",
  "6a71756572792f6a717565727974776f20646966666572656e7462656c6f6e6720746f20746865",
  "65737461626c6973686d656e747265706c6163696e67207468656465736372697074696f6e2220",
  "64657465726d696e6520746865617661696c61626c6520666f724163636f7264696e6720746f20",
  "776964652072616e6765206f66093c64697620636c6173733d226d6f726520636f6d6d6f6e6c79",
  "6f7267616e69736174696f6e7366756e6374696f6e616c69747977617320636f6d706c65746564",
  "2026616d703b6d646173683b2070617274696369706174696f6e74686520636861726163746572",
  "616e206164646974696f6e616c6170706561727320746f20626566616374207468617420746865",
  "616e206578616d706c65206f667369676e69666963616e746c796f6e6d6f7573656f7665723d22",
  "626563617573652074686579206173796e63203d20747275653b70726f626c656d732077697468",
  "7365656d7320746f206861766574686520726573756c74206f66207372633d22687474703a2f2f",
  "66616d696c6961722077697468706f7373657373696f6e206f6666756e6374696f6e202829207b",
  "746f6f6b20706c61636520696e616e6420736f6d6574696d65737375627374616e7469616c6c79",
  "3c7370616e3e3c2f7370616e3e6973206f6674656e2075736564696e20616e20617474656d7074",
  "6772656174206465616c206f66456e7669726f6e6d656e74616c7375636365737366756c6c7920",
  "7669727475616c6c7920616c6c323074682063656e747572792c70726f66657373696f6e616c73",
  "6e656365737361727920746f2064657465726d696e6564206279636f6d7061746962696c697479",
  "6265636175736520697420697344696374696f6e617279206f666d6f64696669636174696f6e73",
  "54686520666f6c6c6f77696e676d617920726566657220746f3a436f6e73657175656e746c792c",
  "496e7465726e6174696f6e616c616c74686f75676820736f6d657468617420776f756c64206265",
  "776f726c642773206669727374636c6173736966696564206173626f74746f6d206f6620746865",
  "28706172746963756c61726c79616c69676e3d226c65667422206d6f737420636f6d6d6f6e6c79",
  "626173697320666f7220746865666f756e646174696f6e206f66636f6e747269627574696f6e73",
  "706f70756c6172697479206f6663656e746572206f6620746865746f2072656475636520746865",
  "6a7572697364696374696f6e73617070726f78696d6174696f6e206f6e6d6f7573656f75743d22",
  "4e65772054657374616d656e74636f6c6c656374696f6e206f663c2f7370616e3e3c2f613e3c2f",
  "696e2074686520556e6974656466696c6d206469726563746f722d7374726963742e647464223e",
  "686173206265656e207573656472657475726e20746f20746865616c74686f7567682074686973",
  "6368616e676520696e207468657365766572616c206f7468657262757420746865726520617265",
  "756e707265636564656e74656469732073696d696c617220746f657370656369616c6c7920696e",
  "7765696768743a20626f6c643b69732063616c6c656420746865636f6d7075746174696f6e616c",
  "696e64696361746520746861747265737472696374656420746f093c6d657461206e616d653d22",
  "617265207479706963616c6c79636f6e666c6963742077697468486f77657665722c2074686520",
  "416e206578616d706c65206f66636f6d706172656420776974687175616e746974696573206f66",
  "726174686572207468616e2061636f6e7374656c6c6174696f6e6e656365737361727920666f72",
  "7265706f72746564207468617473706563696669636174696f6e706f6c69746963616c20616e64",
  "266e6273703b266e6273703b3c7265666572656e63657320746f7468652073616d652079656172",
  "476f7665726e6d656e74206f6667656e65726174696f6e206f6668617665206e6f74206265656e",
  "7365766572616c207965617273636f6d6d69746d656e7420746f09093c756c20636c6173733d22",
  "76697375616c697a6174696f6e313974682063656e747572792c70726163746974696f6e657273",
  "7468617420686520776f756c64616e6420636f6e74696e7565646f636375706174696f6e206f66",
  "697320646566696e656420617363656e747265206f662074686574686520616d6f756e74206f66",
  "3e3c646976207374796c653d226571756976616c656e74206f66646966666572656e7469617465",
  "62726f756768742061626f75746d617267696e2d6c6566743a206175746f6d61746963616c6c79",
  "74686f75676874206f66206173536f6d65206f662074686573650a3c64697620636c6173733d22",
  "696e70757420636c6173733d227265706c6163656420776974686973206f6e65206f6620746865",
  "656475636174696f6e20616e64696e666c75656e63656420627972657075746174696f6e206173",
  "0a3c6d657461206e616d653d226163636f6d6d6f646174696f6e3c2f6469763e0a3c2f6469763e",
  "6c617267652070617274206f66496e7374697475746520666f7274686520736f2d63616c6c6564",
  "20616761696e73742074686520496e207468697320636173652c776173206170706f696e746564",
  "636c61696d656420746f206265486f77657665722c20746869734465706172746d656e74206f66",
  "7468652072656d61696e696e67656666656374206f6e20746865706172746963756c61726c7920",
  "6465616c2077697468207468650a3c646976207374796c653d22616c6d6f737420616c77617973",
  "6172652063757272656e746c7965787072657373696f6e206f667068696c6f736f706879206f66",
  "666f72206d6f7265207468616e636976696c697a6174696f6e736f6e207468652069736c616e64",
  "73656c6563746564496e64657863616e20726573756c7420696e222076616c75653d2222202f3e",
  "74686520737472756374757265202f3e3c2f613e3c2f6469763e4d616e79206f66207468657365",
  "636175736564206279207468656f662074686520556e697465647370616e20636c6173733d226d",
  "63616e2062652074726163656469732072656c6174656420746f626563616d65206f6e65206f66",
  "6973206672657175656e746c796c6976696e6720696e207468657468656f7265746963616c6c79",
  "466f6c6c6f77696e67207468655265766f6c7574696f6e617279676f7665726e6d656e7420696e",
  "69732064657465726d696e656474686520706f6c69746963616c696e74726f647563656420696e",
  "73756666696369656e7420746f6465736372697074696f6e223e73686f72742073746f72696573",
  "73657061726174696f6e206f66617320746f20776865746865726b6e6f776e20666f7220697473",
  "77617320696e697469616c6c79646973706c61793a626c6f636b697320616e206578616d706c65",
  "746865207072696e636970616c636f6e7369737473206f6620617265636f676e697a6564206173",
  "2f626f64793e3c2f68746d6c3e61207375627374616e7469616c7265636f6e7374727563746564",
  "68656164206f66207374617465726573697374616e636520746f756e6465726772616475617465",
  "5468657265206172652074776f6772617669746174696f6e616c61726520646573637269626564",
  "696e74656e74696f6e616c6c7973657276656420617320746865636c6173733d22686561646572",
  "6f70706f736974696f6e20746f66756e64616d656e74616c6c79646f6d696e6174656420746865",
  "616e6420746865206f74686572616c6c69616e6365207769746877617320666f7263656420746f",
  "726573706563746976656c792c616e6420706f6c69746963616c696e20737570706f7274206f66",
  "70656f706c6520696e20746865323074682063656e747572792e616e64207075626c6973686564",
  "6c6f6164436861727462656174746f20756e6465727374616e646d656d62657220737461746573",
  "656e7669726f6e6d656e74616c66697273742068616c66206f66636f756e747269657320616e64",
  "6172636869746563747572616c626520636f6e73696465726564636861726163746572697a6564",
  "636c656172496e74657276616c617574686f726974617469766546656465726174696f6e206f66",
  "77617320737563636565646564616e64207468657265206172656120636f6e73657175656e6365",
  "74686520507265736964656e74616c736f20696e636c756465646672656520736f667477617265",
  "73756363657373696f6e206f66646576656c6f706564207468657761732064657374726f796564",
  "617761792066726f6d207468653b0a3c2f7363726970743e0a3c616c74686f7567682074686579",
  "666f6c6c6f77656420627920616d6f726520706f77657266756c726573756c74656420696e2061",
  "556e6976657273697479206f66486f77657665722c206d616e7974686520707265736964656e74",
  "486f77657665722c20736f6d6569732074686f7567687420746f756e74696c2074686520656e64",
  "77617320616e6e6f756e63656461726520696d706f7274616e74616c736f20696e636c75646573",
  "3e3c696e70757420747970653d7468652063656e746572206f6620444f204e4f5420414c544552",
  "7573656420746f2072656665727468656d65732f3f736f72743d7468617420686164206265656e",
  "74686520626173697320666f7268617320646576656c6f706564696e207468652073756d6d6572",
  "636f6d70617261746976656c7964657363726962656420746865737563682061732074686f7365",
  "74686520726573756c74696e67697320696d706f737369626c65766172696f7573206f74686572",
  "536f757468204166726963616e68617665207468652073616d656566666563746976656e657373",
  "696e20776869636820636173653b20746578742d616c69676e3a73747275637475726520616e64",
  "3b206261636b67726f756e643a726567617264696e6720746865737570706f7274656420746865",
  "697320616c736f206b6e6f776e7374796c653d226d617267696e696e636c7564696e6720746865",
  "626168617361204d656c6179756e6f72736b20626f6b6dc3a56c6e6f72736b206e796e6f72736b",
  "736c6f76656ec5a1c48d696e61696e7465726e6163696f6e616c63616c69666963616369c3b36e",
  "636f6d756e6963616369c3b36e636f6e73747275636369c3b36e"]

end StreamCodec.Format.Brotli.Words
